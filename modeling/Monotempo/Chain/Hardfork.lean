/-
  The hardfork schedule and the machine widths shared by
  the precompiles.

  Source: `crates/hardfork/src/lib.rs` (`TempoHardfork`) and the address
  constants of `crates/contracts/src/precompiles/mod.rs`.
-/
import Mathlib.Algebra.Ring.Nat

set_option autoImplicit false

namespace Monotempo.Chain

/-! ## Hardforks -/

/-- `TempoHardfork`: the network upgrades in activation order. -/
inductive TempoHardfork where
  | genesis | T0 | T1 | T1A | T1B | T1C | T2 | T3 | T4 | T5 | T6 | T7 | T8 | T9
  | T10 | T11 | T12 | T13
  deriving DecidableEq, Repr

namespace TempoHardfork

/-- `variant_index`: the position in the schedule. -/
def variantIndex : TempoHardfork → ℕ
  | genesis => 0 | T0 => 1 | T1 => 2 | T1A => 3 | T1B => 4 | T1C => 5 | T2 => 6
  | T3 => 7 | T4 => 8 | T5 => 9 | T6 => 10 | T7 => 11 | T8 => 12 | T9 => 13
  | T10 => 14 | T11 => 15 | T12 => 16 | T13 => 17

/-- The generated `is_<fork>` helpers: `*self >= Self::<Fork>`. -/
def isActive (spec fork : TempoHardfork) : Bool :=
  decide (fork.variantIndex ≤ spec.variantIndex)

def isT0 (spec : TempoHardfork) : Bool := spec.isActive T0
def isT1 (spec : TempoHardfork) : Bool := spec.isActive T1
def isT1A (spec : TempoHardfork) : Bool := spec.isActive T1A
def isT1C (spec : TempoHardfork) : Bool := spec.isActive T1C
def isT2 (spec : TempoHardfork) : Bool := spec.isActive T2
def isT3 (spec : TempoHardfork) : Bool := spec.isActive T3
def isT4 (spec : TempoHardfork) : Bool := spec.isActive T4
def isT5 (spec : TempoHardfork) : Bool := spec.isActive T5
def isT6 (spec : TempoHardfork) : Bool := spec.isActive T6
def isT7 (spec : TempoHardfork) : Bool := spec.isActive T7
def isT8 (spec : TempoHardfork) : Bool := spec.isActive T8
def isT11 (spec : TempoHardfork) : Bool := spec.isActive T11
def isT12 (spec : TempoHardfork) : Bool := spec.isActive T12

variable {spec : TempoHardfork}

/-- A fork implies every fork scheduled before it. -/
theorem isActive_trans {later earlier : TempoHardfork} (hlater : spec.isActive later = true)
    (horder : later.isActive earlier = true) :
    spec.isActive earlier = true := by
  simp only [isActive, decide_eq_true_eq] at hlater horder ⊢
  exact Nat.le_trans horder hlater

theorem isT1C_of_isT5 (h : spec.isT5 = true) : spec.isT1C = true :=
  isActive_trans h (by decide)

theorem isT7_of_isT8 (h : spec.isT8 = true) : spec.isT7 = true :=
  isActive_trans h (by decide)

theorem isT5_of_isT7 (h : spec.isT7 = true) : spec.isT5 = true :=
  isActive_trans h (by decide)

theorem isT0_of_isT6 (h : spec.isT6 = true) : spec.isT0 = true :=
  isActive_trans h (by decide)

theorem isT2_of_isT6 (h : spec.isT6 = true) : spec.isT2 = true :=
  isActive_trans h (by decide)

theorem isT3_of_isT4 (h : spec.isT4 = true) : spec.isT3 = true :=
  isActive_trans h (by decide)

theorem isT3_of_isT7 (h : spec.isT7 = true) : spec.isT3 = true :=
  isActive_trans h (by decide)

theorem isT5_of_isT12 (h : spec.isT12 = true) : spec.isT5 = true :=
  isActive_trans h (by decide)

end TempoHardfork

/-! ## Machine values -/

/-- A 20-byte account address, as a number; the zero address is `0`. -/
abbrev Address := ℕ

/-- A 32-byte hash, as a number. -/
abbrev B256 := ℕ

/-- `u128::MAX`. -/
def u128Max : ℕ := 2 ^ 128 - 1

/-- `u64::MAX`. -/
def u64Max : ℕ := 2 ^ 64 - 1

/-- `U256::MAX`. -/
def u256Max : ℕ := 2 ^ 256 - 1

/-- `u128::checked_add`. -/
def checkedAdd128 (a b : ℕ) : Option ℕ :=
  if a + b ≤ u128Max then some (a + b) else none

/-- `checked_sub` of any unsigned width. -/
def checkedSub (a b : ℕ) : Option ℕ :=
  if b ≤ a then some (a - b) else none

theorem ite_some_eq_some {p : Prop} [Decidable p] {a c : ℕ} :
    (if p then some a else none) = some c ↔ p ∧ c = a := by
  rw [Option.ite_none_right_eq_some, Option.some_inj, eq_comm]

theorem checkedAdd128_eq_some {a b c : ℕ} :
    checkedAdd128 a b = some c ↔ c = a + b ∧ a + b ≤ u128Max :=
  ite_some_eq_some.trans and_comm

theorem checkedSub_eq_some {a b c : ℕ} :
    checkedSub a b = some c ↔ b ≤ a ∧ c = a - b :=
  ite_some_eq_some

/-- `U256::checked_add`. -/
def checkedAdd256 (a b : ℕ) : Option ℕ := if a + b ≤ u256Max then some (a + b) else none

/-- `U256::checked_mul`. -/
def checkedMul256 (a b : ℕ) : Option ℕ := if a * b ≤ u256Max then some (a * b) else none

theorem checkedAdd256_eq_some {a b c : ℕ} :
    checkedAdd256 a b = some c ↔ c = a + b ∧ a + b ≤ u256Max :=
  ite_some_eq_some.trans and_comm

theorem checkedMul256_eq_some {a b c : ℕ} :
    checkedMul256 a b = some c ↔ c = a * b ∧ a * b ≤ u256Max :=
  ite_some_eq_some.trans and_comm

/-! ## System addresses -/

/-- `STABLECOIN_DEX_ADDRESS`. -/
def stablecoinDexAddress : Address := 0xdec0000000000000000000000000000000000000

/-- `PATH_USD_ADDRESS`. -/
def pathUsdAddress : Address := 0x20C0000000000000000000000000000000000000

/-- `TIP_FEE_MANAGER_ADDRESS`. -/
def tipFeeManagerAddress : Address := 0xfeec000000000000000000000000000000000000

/-- `RECEIVE_POLICY_GUARD_ADDRESS`. -/
def receivePolicyGuardAddress : Address := 0xB10C000000000000000000000000000000000000

/-- `TIP20_CHANNEL_RESERVE_ADDRESS`. -/
def channelReserveAddress : Address := 0x4D50500000000000000000000000000000000000

/-- `is_virtual`: bytes 4 to 14 of the address are the virtual magic. -/
def isVirtual (address : Address) : Bool :=
  address / 2 ^ 48 % 2 ^ 80 == 0xFDFDFDFDFDFDFDFDFDFD

/-- The master id of a virtual address: its first four bytes. -/
def masterId (address : Address) : ℕ := address / 2 ^ 128

/-- `is_tip20_prefix`: the address starts with the twelve TIP-20 prefix bytes. -/
def isTip20 (address : Address) : Bool :=
  address / 2 ^ 64 == 0x20C000000000000000000000

end Monotempo.Chain
