/-
  The bitmap of ticks with resting orders.

  Source: `crates/precompiles/src/stablecoin_dex/orderbook.rs` (lines 464-669:
  `calc_tick_word_idx`, `set_tick_bit`, `delete_tick_bit`,
  `next_initialized_ask_tick`, `next_initialized_bid_tick`).

  A side of a book keeps one 256-bit word for every 256 ticks.  On an `i16` the
  arithmetic shift by eight is the floor division by 256 and the mask `0xFF` the
  remainder.  The searches are shown to be exact: they return the nearest tick
  whose bit is set, and fail only if there is none.
-/
import Monotempo.Chain.Packing
import Monotempo.Dex.Order

set_option autoImplicit false

namespace Monotempo.Dex

open Chain Function

/-- The bitmap words of one side, by word index. -/
abbrev TickBitmap := ℤ → Word

namespace TickBitmap

/-! ## Single bits -/

/-- `tick >> 8`. -/
def wordIndex (tick : ℤ) : ℤ := tick / 256

/-- `tick & 0xFF`. -/
def bitIndex (tick : ℤ) : ℕ := (tick % 256).toNat

/-- `calc_tick_word_idx`. -/
def calcTickWordIdx (tick : ℤ) : Except Error ℤ :=
  if minTick ≤ tick ∧ tick ≤ maxTick then .ok (wordIndex tick)
  else .error (.dex .invalidTick)

/-- The write of `set_tick_bit`. -/
def setTickBit (bitmap : TickBitmap) (tick : ℤ) : TickBitmap :=
  update bitmap (wordIndex tick)
    (bitmap (wordIndex tick) ||| (1#256 <<< bitIndex tick))

/-- The write of `delete_tick_bit`. -/
def deleteTickBit (bitmap : TickBitmap) (tick : ℤ) : TickBitmap :=
  update bitmap (wordIndex tick)
    (bitmap (wordIndex tick) &&& ~~~(1#256 <<< bitIndex tick))

/-- The test of `is_tick_initialized`. -/
def isTickInitialized (bitmap : TickBitmap) (tick : ℤ) : Bool :=
  (bitmap (wordIndex tick)) &&& (1#256 <<< bitIndex tick) != 0#256

theorem bitIndex_lt (tick : ℤ) : bitIndex tick < 256 := by
  unfold bitIndex
  omega

theorem tick_eq (tick : ℤ) : tick = wordIndex tick * 256 + bitIndex tick := by
  unfold wordIndex bitIndex
  omega

theorem bitIndex_add (word : ℤ) {bit : ℕ} (h : bit < 256) :
    bitIndex (word * 256 + bit) = bit := by
  unfold bitIndex
  omega

theorem getLsbD_one_shiftLeft {n i : ℕ} (hn : n < 256) :
    (1#256 <<< n).getLsbD i = decide (i = n) := by
  by_cases h : i = n
  · subst h
    simp [hn]
  · by_cases hlt : i < n
    · simp [hlt, h]
    · have hpos : i - n ≠ 0 := by omega
      have hone : (1#256).getLsbD (i - n) = false := by
        simp [BitVec.getLsbD_one, hpos]
      simp [hone, h]

theorem isTickInitialized_eq (bitmap : TickBitmap) (tick : ℤ) :
    isTickInitialized bitmap tick = (bitmap (wordIndex tick)).getLsbD (bitIndex tick) := by
  have hbit := bitIndex_lt tick
  have hand : ∀ i, (bitmap (wordIndex tick) &&& (1#256 <<< bitIndex tick)).getLsbD i =
      ((bitmap (wordIndex tick)).getLsbD i && decide (i = bitIndex tick)) := by
    intro i
    rw [BitVec.getLsbD_and, getLsbD_one_shiftLeft hbit]
  unfold isTickInitialized
  cases hset : (bitmap (wordIndex tick)).getLsbD (bitIndex tick) with
  | true =>
    rw [bne_iff_ne]
    intro hzero
    have hbitset := hand (bitIndex tick)
    rw [hzero] at hbitset
    simp [hset] at hbitset
  | false =>
    rw [bne_eq_false_iff_eq]
    apply BitVec.eq_of_getLsbD_eq
    intro i _
    rw [hand]
    by_cases hi : i = bitIndex tick
    · rw [hi, hset]
      simp
    · simp [hi]

theorem bitIndex_eq_iff {tick other : ℤ} (hword : wordIndex other = wordIndex tick) :
    bitIndex other = bitIndex tick ↔ other = tick := by
  constructor
  · intro hbit
    rw [tick_eq other, tick_eq tick, hword, hbit]
  · rintro rfl
    rfl

theorem isTickInitialized_setTickBit (bitmap : TickBitmap) (tick other : ℤ) :
    isTickInitialized (setTickBit bitmap tick) other =
      (decide (other = tick) || isTickInitialized bitmap other) := by
  rw [isTickInitialized_eq, isTickInitialized_eq]
  unfold setTickBit
  by_cases hword : wordIndex other = wordIndex tick
  · rw [hword, update_self, BitVec.getLsbD_or,
      getLsbD_one_shiftLeft (bitIndex_lt tick), Bool.or_comm]
    simp only [bitIndex_eq_iff hword]
  · have hne : other ≠ tick := fun heq => hword (congrArg wordIndex heq)
    rw [update_of_ne hword]
    simp [hne]

theorem isTickInitialized_deleteTickBit (bitmap : TickBitmap) (tick other : ℤ) :
    isTickInitialized (deleteTickBit bitmap tick) other =
      (isTickInitialized bitmap other && !decide (other = tick)) := by
  rw [isTickInitialized_eq, isTickInitialized_eq]
  unfold deleteTickBit
  by_cases hword : wordIndex other = wordIndex tick
  · rw [hword, update_self, BitVec.getLsbD_and, BitVec.getLsbD_not,
      getLsbD_one_shiftLeft (bitIndex_lt tick)]
    simp only [bitIndex_eq_iff hword, bitIndex_lt other, decide_true, Bool.true_and]
  · have hne : other ≠ tick := fun heq => hword (congrArg wordIndex heq)
    rw [update_of_ne hword]
    simp [hne]

/-! ## Counting zeros -/

/-- `U256::trailing_zeros`. -/
def trailingZeros (word : Word) : ℕ :=
  ((List.range 256).find? fun i => word.getLsbD i).getD 256

/-- `U256::leading_zeros`. -/
def leadingZeros (word : Word) : ℕ :=
  ((List.range 256).find? fun i => word.getLsbD (255 - i)).getD 256

variable {word : Word}

theorem exists_bit_of_ne_zero (h : word ≠ 0#256) :
    ∃ i, i < 256 ∧ word.getLsbD i = true := by
  by_contra hnone
  refine h (BitVec.eq_of_getLsbD_eq fun i hi => ?_)
  by_contra hbit
  exact hnone ⟨i, hi, by simpa using hbit⟩

theorem trailingZeros_spec (h : word ≠ 0#256) :
    trailingZeros word < 256 ∧ word.getLsbD (trailingZeros word) = true ∧
      ∀ j, j < trailingZeros word → word.getLsbD j = false := by
  obtain ⟨i, hi, hbit⟩ := exists_bit_of_ne_zero h
  unfold trailingZeros
  cases hfind : (List.range 256).find? fun i => word.getLsbD i with
  | none =>
    have hnone := List.find?_eq_none.mp hfind i (List.mem_range.mpr hi)
    exact absurd hbit hnone
  | some found =>
    obtain ⟨hfound, hmem, hbelow⟩ := List.find?_range_eq_some.mp hfind
    refine ⟨List.mem_range.mp hmem, hfound, ?_⟩
    intro j hj
    simpa using hbelow j hj

theorem leadingZeros_spec (h : word ≠ 0#256) :
    leadingZeros word < 256 ∧ word.getLsbD (255 - leadingZeros word) = true ∧
      ∀ j, 255 - leadingZeros word < j → j < 256 → word.getLsbD j = false := by
  obtain ⟨i, hi, hbit⟩ := exists_bit_of_ne_zero h
  unfold leadingZeros
  cases hfind : (List.range 256).find? fun i => word.getLsbD (255 - i) with
  | none =>
    have hnone := List.find?_eq_none.mp hfind (255 - i) (List.mem_range.mpr (by omega))
    rw [show 255 - (255 - i) = i by omega] at hnone
    exact absurd hbit hnone
  | some found =>
    obtain ⟨hfound, hmem, hbelow⟩ := List.find?_range_eq_some.mp hfind
    refine ⟨List.mem_range.mp hmem, hfound, ?_⟩
    intro j hlow hj
    have hbit := hbelow (255 - j) (by simp only [Option.getD_some] at hlow; omega)
    rw [show 255 - (255 - j) = j by omega] at hbit
    simpa using hbit

/-! ## Searching for the next tick -/

/-- The loop of `next_initialized_ask_tick`; `fuel` bounds the words it reads. -/
def scanUp (bitmap : TickBitmap) : ℕ → ℤ → ℤ × Bool
  | 0, nextTick => (nextTick, false)
  | fuel + 1, nextTick =>
    let word := wordIndex nextTick
    if wordIndex maxTick < word then (nextTick, false)
    else
      let bit := bitIndex nextTick
      let mask := if bit = 0 then BitVec.allOnes 256 else BitVec.allOnes 256 <<< bit
      let masked := bitmap word &&& mask
      if masked ≠ 0#256 then
        let foundTick := word * 256 + trailingZeros masked
        if foundTick ≤ maxTick then (foundTick, true) else (foundTick, false)
      else
        let nextWord := word + 1
        if wordIndex maxTick < nextWord then (nextWord * 256, false)
        else scanUp bitmap fuel (nextWord * 256)

/-- `next_initialized_ask_tick`. -/
def nextInitializedAskTick (bitmap : TickBitmap) (tick : ℤ) : ℤ × Bool :=
  if maxTick ≤ tick then (maxTick, false)
  else scanUp bitmap (wordIndex maxTick - wordIndex (tick + 1) + 1).toNat (tick + 1)

/-- The loop of `next_initialized_bid_tick`; `fuel` bounds the words it reads. -/
def scanDown (bitmap : TickBitmap) : ℕ → ℤ → ℤ × Bool
  | 0, nextTick => (nextTick, false)
  | fuel + 1, nextTick =>
    let word := wordIndex nextTick
    if word < wordIndex minTick then (nextTick, false)
    else
      let bit := bitIndex nextTick
      let mask :=
        if bit = 255 then BitVec.allOnes 256 else BitVec.allOnes 256 >>> (255 - bit)
      let masked := bitmap word &&& mask
      if masked ≠ 0#256 then
        let highestBit := 255 - leadingZeros masked
        let foundTick := word * 256 + highestBit
        if minTick ≤ foundTick then (foundTick, true) else (foundTick, false)
      else
        let prevWord := word - 1
        if prevWord < wordIndex minTick then (prevWord * 256 + 255, false)
        else scanDown bitmap fuel (prevWord * 256 + 255)

/-- `next_initialized_bid_tick`. -/
def nextInitializedBidTick (bitmap : TickBitmap) (tick : ℤ) : ℤ × Bool :=
  if tick ≤ minTick then (minTick, false)
  else scanDown bitmap (wordIndex (tick - 1) - wordIndex minTick + 1).toNat (tick - 1)

/-- `next_initialized_tick`: downward for bids, upward for asks. -/
def nextInitializedTick (bitmap : TickBitmap) (tick : ℤ) (isBid : Bool) : ℤ × Bool :=
  if isBid then nextInitializedBidTick bitmap tick else nextInitializedAskTick bitmap tick

/-! ### Exactness upward -/

/-- The result is the least set tick from `low` on, if there is one. -/
def LeastFrom (bitmap : TickBitmap) (low : ℤ) (result : ℤ × Bool) : Prop :=
  if result.2 then
    low ≤ result.1 ∧ result.1 ≤ maxTick ∧ isTickInitialized bitmap result.1 = true ∧
      ∀ tick, low ≤ tick → tick < result.1 → isTickInitialized bitmap tick = false
  else ∀ tick, low ≤ tick → tick ≤ maxTick → isTickInitialized bitmap tick = false

theorem getLsbD_maskUp (word : Word) (bit i : ℕ) :
    (word &&& (if bit = 0 then BitVec.allOnes 256 else BitVec.allOnes 256 <<< bit)).getLsbD i =
      (word.getLsbD i && decide (bit ≤ i)) := by
  by_cases hi : i < 256
  · rw [BitVec.getLsbD_and]
    split
    · rename_i h
      rw [BitVec.getLsbD_allOnes]
      simp [h, hi]
    · rw [BitVec.getLsbD_shiftLeft, BitVec.getLsbD_allOnes]
      by_cases hbit : i < bit
      · simp [hbit]
      · have hrest : i - bit < 256 := by omega
        simp [hi, hbit, hrest, Nat.le_of_not_lt hbit]
  · have hword : word.getLsbD i = false := BitVec.getLsbD_of_ge word i (by omega)
    simp [BitVec.getLsbD_and, hword]

variable {bitmap : TickBitmap} {result : ℤ × Bool}

/-- Ticks that are clear may be put in front of a search. -/
theorem LeastFrom.extend {low mid : ℤ} (hle : low ≤ mid)
    (hclear : ∀ tick, low ≤ tick → tick < mid → isTickInitialized bitmap tick = false)
    (h : LeastFrom bitmap mid result) : LeastFrom bitmap low result := by
  obtain ⟨found, has⟩ := result
  cases has with
  | false =>
    intro tick hlow hhigh
    by_cases hthis : tick < mid
    · exact hclear tick hlow hthis
    · exact h tick (by omega) hhigh
  | true =>
    obtain ⟨hge, hmax, hset, hbelow⟩ := h
    refine ⟨hle.trans hge, hmax, hset, fun tick hlow hlt => ?_⟩
    by_cases hthis : tick < mid
    · exact hclear tick hlow hthis
    · exact hbelow tick (by omega) hlt

/-- The ticks of a word from `low` on have their bits in the masked word. -/
theorem masked_up {low : ℤ} {masked : Word} (hmask : ∀ i, masked.getLsbD i =
      ((bitmap (wordIndex low)).getLsbD i && decide (bitIndex low ≤ i))) {tick : ℤ}
    (hle : low ≤ tick) (hlt : tick < (wordIndex low + 1) * 256) :
    isTickInitialized bitmap tick = masked.getLsbD (bitIndex tick) ∧
      tick = wordIndex low * 256 + bitIndex tick := by
  have hsame : wordIndex tick = wordIndex low := by
    unfold wordIndex at hlt ⊢
    omega
  have htick := tick_eq tick
  have hlow := tick_eq low
  rw [hsame] at htick
  refine ⟨?_, htick⟩
  rw [isTickInitialized_eq, hsame, hmask, decide_eq_true (by omega), Bool.and_true]

theorem scanUp_leastFrom (bitmap : TickBitmap) :
    ∀ (fuel : ℕ) (low : ℤ), wordIndex maxTick - wordIndex low + 1 ≤ fuel →
      LeastFrom bitmap low (scanUp bitmap fuel low) := by
  intro fuel
  induction fuel with
  | zero =>
    -- The last word has been passed, so no tick up to the maximum is left.
    intro low hfuel tick hlow hhigh
    unfold wordIndex maxTick at hfuel
    unfold maxTick at hhigh
    omega
  | succ fuel ih =>
    intro low hfuel
    have hlow := tick_eq low
    have hmask := getLsbD_maskUp (bitmap (wordIndex low)) (bitIndex low)
    unfold scanUp
    simp only
    revert hmask
    generalize (bitmap (wordIndex low) &&& (if bitIndex low = 0 then BitVec.allOnes 256
      else BitVec.allOnes 256 <<< bitIndex low)) = masked
    intro hmask
    split
    · rename_i hpast
      intro tick hle hhigh
      unfold wordIndex maxTick at hpast
      unfold maxTick at hhigh
      omega
    · split
      · rename_i hfound
        obtain ⟨hlt, hset, hbelow⟩ := trailingZeros_spec hfound
        have hfrom : bitIndex low ≤ trailingZeros masked := by
          have hbit := hmask (trailingZeros masked)
          rw [hset] at hbit
          simpa using (Bool.and_eq_true_iff.mp hbit.symm).2
        have hclear : ∀ tick, low ≤ tick → tick < wordIndex low * 256 + trailingZeros masked →
            isTickInitialized bitmap tick = false := by
          intro tick hle htick
          obtain ⟨hbit, hexpand⟩ := masked_up hmask hle (by omega)
          exact hbit.trans (hbelow _ (by omega))
        split
        · rename_i hmax
          have hbit : isTickInitialized bitmap (wordIndex low * 256 + trailingZeros masked) = _ ∧
              _ := masked_up hmask (by omega) (by omega)
          rw [bitIndex_add _ hlt] at hbit
          exact ⟨by simp only; omega, hmax, hbit.1.trans hset, hclear⟩
        · exact fun tick hle hhigh => hclear tick hle (by omega)
      · rename_i hnone
        have hclear : ∀ tick, low ≤ tick → tick < (wordIndex low + 1) * 256 →
            isTickInitialized bitmap tick = false := by
          intro tick hle hlt
          rw [(masked_up hmask hle hlt).1, not_not.mp hnone, BitVec.getLsbD_zero]
        have hend := bitIndex_lt low
        split
        · rename_i hlast
          intro tick hle hhigh
          refine hclear tick hle ?_
          unfold wordIndex maxTick at hlast
          unfold maxTick at hhigh
          unfold wordIndex
          omega
        · refine .extend (by omega) hclear (ih _ ?_)
          unfold wordIndex at hfuel ⊢
          omega

/-- The ask search is exact: the least set tick above `tick`, or none. -/
theorem nextInitializedAskTick_exact (bitmap : TickBitmap) (tick : ℤ) :
    LeastFrom bitmap (tick + 1) (nextInitializedAskTick bitmap tick) := by
  unfold nextInitializedAskTick
  split
  · intro other hle hhigh
    omega
  · exact scanUp_leastFrom bitmap _ (tick + 1) (by omega)

/-! ### Exactness downward -/

/-- The result is the greatest set tick down from `high`, if there is one. -/
def GreatestFrom (bitmap : TickBitmap) (high : ℤ) (result : ℤ × Bool) : Prop :=
  if result.2 then
    result.1 ≤ high ∧ minTick ≤ result.1 ∧ isTickInitialized bitmap result.1 = true ∧
      ∀ tick, tick ≤ high → result.1 < tick → isTickInitialized bitmap tick = false
  else ∀ tick, tick ≤ high → minTick ≤ tick → isTickInitialized bitmap tick = false

theorem getLsbD_maskDown (word : Word) {bit : ℕ} (hbit : bit < 256) (i : ℕ) :
    (word &&& (if bit = 255 then BitVec.allOnes 256
      else BitVec.allOnes 256 >>> (255 - bit))).getLsbD i =
      (word.getLsbD i && decide (i ≤ bit)) := by
  by_cases hi : i < 256
  · rw [BitVec.getLsbD_and]
    split
    · have hle : i ≤ bit := by omega
      rw [BitVec.getLsbD_allOnes]
      simp [hi, hle]
    · rw [BitVec.getLsbD_ushiftRight, BitVec.getLsbD_allOnes]
      by_cases hle : i ≤ bit
      · have hrest : 255 - bit + i < 256 := by omega
        simp [hle, hrest]
      · have hrest : ¬ 255 - bit + i < 256 := by omega
        simp [hle, hrest]
  · have hword : word.getLsbD i = false := BitVec.getLsbD_of_ge word i (by omega)
    simp [BitVec.getLsbD_and, hword]

/-- Ticks that are clear may be put in front of a search. -/
theorem GreatestFrom.extend {mid high : ℤ} (hle : mid ≤ high)
    (hclear : ∀ tick, tick ≤ high → mid < tick → isTickInitialized bitmap tick = false)
    (h : GreatestFrom bitmap mid result) : GreatestFrom bitmap high result := by
  obtain ⟨found, has⟩ := result
  cases has with
  | false =>
    intro tick hhigh hlow
    by_cases hthis : mid < tick
    · exact hclear tick hhigh hthis
    · exact h tick (by omega) hlow
  | true =>
    obtain ⟨hge, hmin, hset, habove⟩ := h
    refine ⟨hge.trans hle, hmin, hset, fun tick hhigh hgt => ?_⟩
    by_cases hthis : mid < tick
    · exact hclear tick hhigh hthis
    · exact habove tick (by omega) hgt

/-- The ticks of a word up to `high` have their bits in the masked word. -/
theorem masked_down {high : ℤ} {masked : Word} (hmask : ∀ i, masked.getLsbD i =
      ((bitmap (wordIndex high)).getLsbD i && decide (i ≤ bitIndex high))) {tick : ℤ}
    (hle : tick ≤ high) (hge : wordIndex high * 256 ≤ tick) :
    isTickInitialized bitmap tick = masked.getLsbD (bitIndex tick) ∧
      tick = wordIndex high * 256 + bitIndex tick := by
  have hsame : wordIndex tick = wordIndex high := by
    unfold wordIndex at hge ⊢
    omega
  have htick := tick_eq tick
  have hhigh := tick_eq high
  rw [hsame] at htick
  refine ⟨?_, htick⟩
  rw [isTickInitialized_eq, hsame, hmask, decide_eq_true (by omega), Bool.and_true]

theorem scanDown_greatestFrom (bitmap : TickBitmap) :
    ∀ (fuel : ℕ) (high : ℤ), wordIndex high - wordIndex minTick + 1 ≤ fuel →
      GreatestFrom bitmap high (scanDown bitmap fuel high) := by
  intro fuel
  induction fuel with
  | zero =>
    intro high hfuel tick hhigh hlow
    unfold wordIndex minTick at hfuel
    unfold minTick at hlow
    omega
  | succ fuel ih =>
    intro high hfuel
    have hhigh := tick_eq high
    have hhighbit := bitIndex_lt high
    have hmask := getLsbD_maskDown (bitmap (wordIndex high)) hhighbit
    unfold scanDown
    simp only
    revert hmask
    generalize (bitmap (wordIndex high) &&& (if bitIndex high = 255 then BitVec.allOnes 256
      else BitVec.allOnes 256 >>> (255 - bitIndex high))) = masked
    intro hmask
    split
    · rename_i hpast
      intro tick hle hlow
      unfold wordIndex minTick at hpast
      unfold minTick at hlow
      omega
    · split
      · rename_i hfound
        obtain ⟨hlt, hset, habove⟩ := leadingZeros_spec hfound
        have hto : 255 - leadingZeros masked ≤ bitIndex high := by
          have hbit := hmask (255 - leadingZeros masked)
          rw [hset] at hbit
          simpa using (Bool.and_eq_true_iff.mp hbit.symm).2
        have hclear : ∀ tick, tick ≤ high →
            wordIndex high * 256 + ((255 - leadingZeros masked : ℕ) : ℤ) < tick →
            isTickInitialized bitmap tick = false := by
          intro tick hle htick
          obtain ⟨hbit, hexpand⟩ := masked_down hmask hle (by omega)
          exact hbit.trans (habove _ (by omega) (bitIndex_lt tick))
        split
        · rename_i hmin
          have hbit : isTickInitialized bitmap
              (wordIndex high * 256 + ((255 - leadingZeros masked : ℕ) : ℤ)) = _ ∧ _ :=
            masked_down hmask (by omega) (by omega)
          rw [bitIndex_add _ (by omega)] at hbit
          exact ⟨by simp only; omega, hmin, hbit.1.trans hset, hclear⟩
        · exact fun tick hle hlow => hclear tick hle (by omega)
      · rename_i hnone
        have hclear : ∀ tick, tick ≤ high → wordIndex high * 256 ≤ tick →
            isTickInitialized bitmap tick = false := by
          intro tick hle hge
          rw [(masked_down hmask hle hge).1, not_not.mp hnone, BitVec.getLsbD_zero]
        split
        · rename_i hlast
          intro tick hle hlow
          refine hclear tick hle ?_
          unfold wordIndex minTick at hlast
          unfold minTick at hlow
          unfold wordIndex
          omega
        · refine .extend (by omega) (fun tick hle hgt => hclear tick hle (by omega)) (ih _ ?_)
          unfold wordIndex at hfuel ⊢
          omega

/-- The bid search is exact: the greatest set tick below `tick`, or none. -/
theorem nextInitializedBidTick_exact (bitmap : TickBitmap) (tick : ℤ) :
    GreatestFrom bitmap (tick - 1) (nextInitializedBidTick bitmap tick) := by
  unfold nextInitializedBidTick
  split
  · intro other hle hlow
    omega
  · exact scanDown_greatestFrom bitmap _ (tick - 1) (by omega)

/-! ### Exactness in the direction of a side -/

/-- `better isBid a b`: on this side, tick `a` is filled before tick `b`. -/
def better (isBid : Bool) (a b : ℤ) : Prop := if isBid then b < a else a < b

instance (isBid : Bool) (a b : ℤ) : Decidable (better isBid a b) :=
  inferInstanceAs (Decidable (if isBid then b < a else a < b))

theorem better_trans {isBid : Bool} {a b c : ℤ} (hab : better isBid a b)
    (hbc : better isBid b c) : better isBid a c := by
  cases isBid <;> simp only [better, if_true, Bool.false_eq_true, if_false] at * <;> omega

theorem better_irrefl (isBid : Bool) (a : ℤ) : ¬ better isBid a a := by
  cases isBid <;> simp [better]

theorem better_trichotomy (isBid : Bool) (a b : ℤ) :
    better isBid a b ∨ a = b ∨ better isBid b a := by
  cases isBid <;> simp only [better, if_true, Bool.false_eq_true, if_false] <;> omega

/-- A successful search returns the best set tick behind the given one. -/
theorem nextInitializedTick_some {tick next : ℤ} {isBid : Bool}
    (h : nextInitializedTick bitmap tick isBid = (next, true)) :
    better isBid tick next ∧ isTickInitialized bitmap next = true ∧
      ∀ other, better isBid tick other → better isBid other next →
        isTickInitialized bitmap other = false := by
  unfold nextInitializedTick at h
  cases isBid with
  | true =>
    have hexact := nextInitializedBidTick_exact bitmap tick
    simp only [if_true] at h
    rw [h] at hexact
    obtain ⟨hle, _, hset, hclear⟩ := hexact
    simp only [better, if_true]
    exact ⟨by simp only at hle; omega, hset,
      fun other hlow hhigh => hclear other (by omega) hhigh⟩
  | false =>
    have hexact := nextInitializedAskTick_exact bitmap tick
    simp only [Bool.false_eq_true, if_false] at h
    rw [h] at hexact
    obtain ⟨hle, _, hset, hclear⟩ := hexact
    simp only [better, Bool.false_eq_true, if_false]
    exact ⟨by simp only at hle; omega, hset,
      fun other hlow hhigh => hclear other (by omega) hhigh⟩

theorem nextInitializedTick_none {tick next : ℤ} {isBid : Bool}
    (h : nextInitializedTick bitmap tick isBid = (next, false)) :
    ∀ other, minTick ≤ other → other ≤ maxTick → better isBid tick other →
      isTickInitialized bitmap other = false := by
  unfold nextInitializedTick at h
  intro other hmin hmax
  cases isBid with
  | true =>
    have hexact := nextInitializedBidTick_exact bitmap tick
    simp only [if_true] at h
    rw [h] at hexact
    simp only [better, if_true]
    exact fun hlt => hexact other (by omega) hmin
  | false =>
    have hexact := nextInitializedAskTick_exact bitmap tick
    simp only [Bool.false_eq_true, if_false] at h
    rw [h] at hexact
    simp only [better, Bool.false_eq_true, if_false]
    exact fun hlt => hexact other (by omega) hmax

/-! ## Sequences of calls -/

/-- A call that changes the bitmap of one side of a book. -/
inductive Call where
  | setTickBit (tick : ℤ) (isBid : Bool)
  | deleteTickBit (tick : ℤ) (isBid : Bool)

namespace Call

def tick : Call → ℤ
  | .setTickBit tick _ | .deleteTickBit tick _ => tick

def isBid : Call → Bool
  | .setTickBit _ isBid | .deleteTickBit _ isBid => isBid

/-- The bit that the call writes. -/
def bit : Call → Bool
  | .setTickBit _ _ => true
  | .deleteTickBit _ _ => false

/-- The word written for the tick of the call. -/
def write : Call → TickBitmap → TickBitmap
  | .setTickBit tick _, bitmap => bitmap.setTickBit tick
  | .deleteTickBit tick _, bitmap => bitmap.deleteTickBit tick

/-- `set_tick_bit` and `delete_tick_bit` on the two bitmaps of a book, by `is_bid`. -/
def run (call : Call) (bitmaps : Bool → TickBitmap) : Except Error (Bool → TickBitmap) := do
  let _ ← calcTickWordIdx call.tick
  .ok (update bitmaps call.isBid (call.write (bitmaps call.isBid)))

/-- The bitmaps after some calls; one that fails changes nothing. -/
def runAll (calls : List Call) (bitmaps : Bool → TickBitmap) : Bool → TickBitmap :=
  calls.foldl (fun bitmaps call => ((call.run bitmaps).toOption).getD bitmaps) bitmaps

variable {call : Call} {bitmaps bitmaps' : Bool → TickBitmap}

theorem run_ok (h : call.run bitmaps = .ok bitmaps') :
    (minTick ≤ call.tick ∧ call.tick ≤ maxTick) ∧
      bitmaps' = update bitmaps call.isBid (call.write (bitmaps call.isBid)) := by
  unfold run calcTickWordIdx at h
  split at h
  · rename_i hrange
    exact ⟨hrange, (Except.ok.inj h).symm⟩
  · exact nomatch h

/-- A call changes the bit of its tick and no other. -/
theorem isTickInitialized_run (h : call.run bitmaps = .ok bitmaps') (side : Bool) (tick : ℤ) :
    isTickInitialized (bitmaps' side) tick =
      if side = call.isBid ∧ tick = call.tick then call.bit
      else isTickInitialized (bitmaps side) tick := by
  obtain ⟨-, rfl⟩ := run_ok h
  by_cases hside : side = call.isBid
  · subst hside
    rw [update_self]
    cases call with
    | setTickBit other isBid =>
      simp only [write, bit, Call.tick, isTickInitialized_setTickBit, true_and]
      split <;> simp_all
    | deleteTickBit other isBid =>
      simp only [write, bit, Call.tick, isTickInitialized_deleteTickBit, true_and]
      split <;> simp_all
  · rw [update_of_ne hside, if_neg fun hcontra => hside hcontra.1]

/-- Only ticks in the range of the book are ever set. -/
theorem runAll_range (calls : List Call) (bitmaps : Bool → TickBitmap)
    (h : ∀ side tick, isTickInitialized (bitmaps side) tick = true →
      minTick ≤ tick ∧ tick ≤ maxTick) (side : Bool) (tick : ℤ)
    (hset : isTickInitialized (runAll calls bitmaps side) tick = true) :
    minTick ≤ tick ∧ tick ≤ maxTick := by
  induction calls generalizing bitmaps with
  | nil => exact h side tick hset
  | cons call rest ih =>
    refine ih _ (fun side tick hset => ?_) hset
    dsimp only at hset
    cases hrun : call.run bitmaps with
    | error e =>
      rw [hrun] at hset
      exact h side tick hset
    | ok bitmaps' =>
      rw [hrun] at hset
      have hbit := isTickInitialized_run hrun side tick
      split at hbit
      · rename_i hown
        exact hown.2 ▸ (run_ok hrun).1
      · exact h side tick (hbit ▸ hset)

end Call

/-- The set ticks of one side of the book. -/
def setTicks (bitmap : TickBitmap) : Set ℤ :=
  {tick | minTick ≤ tick ∧ tick ≤ maxTick ∧ isTickInitialized bitmap tick = true}

section Search

variable {bitmap : TickBitmap} {isBid : Bool}

/-- An unanswered search has nothing to find. -/
theorem nextInitializedTick_eq_false (tick : ℤ)
    (hrange : ∀ tick, isTickInitialized bitmap tick = true → minTick ≤ tick ∧ tick ≤ maxTick) :
    (nextInitializedTick bitmap tick isBid).2 = false ↔
      ∀ other ∈ setTicks bitmap, ¬ better isBid tick other := by
  rcases hnext : nextInitializedTick bitmap tick isBid with ⟨next, found⟩
  cases found with
  | false =>
    refine ⟨fun _ other hother hbetter => ?_, fun _ => rfl⟩
    have hclear := nextInitializedTick_none hnext other hother.1 hother.2.1 hbetter
    exact Bool.false_ne_true (hclear.symm.trans hother.2.2)
  | true =>
    obtain ⟨hbetter, hset, -⟩ := nextInitializedTick_some hnext
    refine ⟨fun hcontra => (nomatch hcontra), fun hnone => ?_⟩
    exact absurd hbetter (hnone next ⟨(hrange next hset).1, (hrange next hset).2, hset⟩)

/-- The answer of a search is the first set tick behind the given one. -/
theorem nextInitializedTick_eq_true (tick next : ℤ)
    (hrange : ∀ tick, isTickInitialized bitmap tick = true → minTick ≤ tick ∧ tick ≤ maxTick) :
    nextInitializedTick bitmap tick isBid = (next, true) ↔
      (next ∈ setTicks bitmap ∧ better isBid tick next) ∧
        ∀ other, other ∈ setTicks bitmap ∧ better isBid tick other → ¬ better isBid other next := by
  constructor
  · intro hnext
    obtain ⟨hbetter, hset, hclear⟩ := nextInitializedTick_some hnext
    refine ⟨⟨⟨(hrange next hset).1, (hrange next hset).2, hset⟩, hbetter⟩, ?_⟩
    rintro other ⟨hother, hbehind⟩ hcloser
    exact Bool.false_ne_true ((hclear other hbehind hcloser).symm.trans hother.2.2)
  · rintro ⟨⟨hmem, hbetter⟩, hfirst⟩
    rcases hnext : nextInitializedTick bitmap tick isBid with ⟨found, has⟩
    cases has with
    | false =>
      have hnone := (nextInitializedTick_eq_false tick hrange).mp (congrArg Prod.snd hnext)
      exact absurd hbetter (hnone next hmem)
    | true =>
      obtain ⟨hbehind, hset, hclear⟩ := nextInitializedTick_some hnext
      rcases better_trichotomy isBid found next with hcloser | rfl | hcloser
      · have hfound := hrange found hset
        exact absurd hcloser (hfirst found ⟨⟨hfound.1, hfound.2, hset⟩, hbehind⟩)
      · rfl
      · exact absurd hmem.2.2 (by rw [hclear next hbetter hcloser]; exact Bool.false_ne_true)

end Search

/-- The searches are exact on the bitmaps that any calls leave, from every tick: upward
the least set ask tick above, downward the greatest set bid tick below, and no answer
only if there is none.  A further call changes the bit of its own tick only. -/
theorem search_exact (calls : List Call) (tick : ℤ) :
    let bitmaps := Call.runAll calls fun _ _ => 0#256
    (∀ next, nextInitializedTick (bitmaps false) tick false = (next, true) ↔
        IsLeast {other | other ∈ setTicks (bitmaps false) ∧ tick < other} next) ∧
      ((nextInitializedTick (bitmaps false) tick false).2 = false ↔
        ∀ other ∈ setTicks (bitmaps false), ¬ tick < other) ∧
      (∀ next, nextInitializedTick (bitmaps true) tick true = (next, true) ↔
        IsGreatest {other | other ∈ setTicks (bitmaps true) ∧ other < tick} next) ∧
      ((nextInitializedTick (bitmaps true) tick true).2 = false ↔
        ∀ other ∈ setTicks (bitmaps true), ¬ other < tick) ∧
      ∀ call bitmaps', Call.run call bitmaps = .ok bitmaps' → ∀ side other,
        isTickInitialized (bitmaps' side) other =
          if side = call.isBid ∧ other = call.tick then call.bit
          else isTickInitialized (bitmaps side) other := by
  intro bitmaps
  have hrange : ∀ side tick, isTickInitialized (bitmaps side) tick = true →
      minTick ≤ tick ∧ tick ≤ maxTick := by
    refine Call.runAll_range calls _ fun side tick hset => ?_
    simp [isTickInitialized] at hset
  refine ⟨fun next => ?_, nextInitializedTick_eq_false tick (hrange false), fun next => ?_,
    nextInitializedTick_eq_false tick (hrange true), fun call _ hrun =>
      Call.isTickInitialized_run hrun⟩
  · rw [nextInitializedTick_eq_true tick next (hrange false)]
    exact and_congr Iff.rfl (forall_congr' fun other => imp_congr Iff.rfl Int.not_lt)
  · rw [nextInitializedTick_eq_true tick next (hrange true)]
    exact and_congr Iff.rfl (forall_congr' fun other => imp_congr Iff.rfl Int.not_lt)

end TickBitmap

end Monotempo.Dex
