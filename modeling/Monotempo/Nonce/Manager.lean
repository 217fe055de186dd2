/-
  The expiring nonces of the nonce manager.

  Source: `crates/precompiles/src/nonce/mod.rs`, with the window and the capacity of
  `crates/hardfork/src/lib.rs`.

  A transaction with an expiring nonce is recorded by its hash until it can no longer be
  valid.  Recorded hashes sit in a map to their expiry and in a ring; a new hash takes the
  place of the oldest one.  Events are left out.
-/
import Monotempo.Chain.Hardfork
import Monotempo.Foundation.Program

set_option autoImplicit false

namespace Monotempo.Nonce

open Chain Foundation

/-! ## Storage -/

/-- `NonceError`, the errors of expiring nonces. -/
inductive NonceError where
  | invalidExpiringNonceExpiry
  | expiringNonceReplay
  | expiringNonceSetFull
  deriving DecidableEq, Repr

/-- `NonceManager` without the nonces of accounts. -/
structure NonceState where
  expiringNonceSeen : B256 → ℕ
  expiringNonceRing : ℕ → B256
  expiringNonceRingPtr : ℕ

/-- Empty storage. -/
def NonceState.fresh : NonceState := ⟨fun _ => 0, fun _ => 0, 0⟩

abbrev NonceM := EStateM NonceError NonceState

/-- `expiring_nonce_set_capacity`. -/
def expiringNonceSetCapacity (spec : TempoHardfork) : ℕ :=
  if spec.isT11 then 3000000 else 300000

/-- `expiring_nonce_max_expiry_secs`. -/
def expiringNonceMaxExpirySecs (spec : TempoHardfork) : ℕ :=
  if spec.isT11 then 300 else 30

/-- Write the expiry of a hash. -/
def NonceState.setSeen (s : NonceState) (hash : B256) (expiry : ℕ) : NonceState :=
  { s with expiringNonceSeen := Function.update s.expiringNonceSeen hash expiry }

/-- Write an entry of the ring. -/
def NonceState.setRing (s : NonceState) (index : ℕ) (hash : B256) : NonceState :=
  { s with expiringNonceRing := Function.update s.expiringNonceRing index hash }

/-- Write the pointer of the ring. -/
def NonceState.setRingPtr (s : NonceState) (ptr : ℕ) : NonceState :=
  { s with expiringNonceRingPtr := ptr }

/-! ## Calls -/

/-- A recorded expiry that is not over. -/
def live (expiry now : ℕ) : Bool := decide (expiry ≠ 0 ∧ now < expiry)

/-- The expiry window of the active fork; `saturating_add` of two `u64`. -/
def inWindow (spec : TempoHardfork) (now validBefore : ℕ) : Bool :=
  decide (now < validBefore ∧ validBefore ≤ min (now + expiringNonceMaxExpirySecs spec) u64Max)

/-- The pointer after `ptr`. -/
def nextPtr (spec : TempoHardfork) (ptr : ℕ) : ℕ :=
  if expiringNonceSetCapacity spec ≤ ptr + 1 then 0 else ptr + 1

/-- Take the place of the entry that the pointer is at. -/
def evict (ptr now : ℕ) : NonceM Unit := do
  let s ← get
  let oldHash := s.expiringNonceRing ptr
  onlyIf (oldHash ≠ 0) do
    require (live (s.expiringNonceSeen oldHash) now = false) .expiringNonceSetFull
    modify fun s => s.setSeen oldHash 0

/-- `check_and_mark_expiring_nonce`. -/
def checkAndMarkExpiringNonce (spec : TempoHardfork) (timestamp : ℕ) (hash : B256)
    (validBefore : ℕ) : NonceM Unit := do
  let now := min timestamp u64Max
  require (inWindow spec now validBefore = true) .invalidExpiringNonceExpiry
  let s ← get
  require (live (s.expiringNonceSeen hash) now = false) .expiringNonceReplay
  let ptr := s.expiringNonceRingPtr
  evict ptr now
  modify fun s => s.setRing ptr hash
  modify fun s => s.setSeen hash validBefore
  modify fun s => s.setRingPtr (nextPtr spec ptr)

/-! ## What a call does -/

variable {spec : TempoHardfork} {s s' : NonceState} {now timestamp validBefore ptr expiry : ℕ}
  {hash : B256}

theorem live_eq_true : live expiry now = true ↔ now < expiry := by
  unfold live
  rw [decide_eq_true_eq]
  omega

theorem live_eq_false : live expiry now = false ↔ expiry ≤ now := by
  rw [← Bool.not_eq_true, live_eq_true, Nat.not_lt]

/-- The map to expiries without the hash that is evicted. -/
def NonceState.evicted (s : NonceState) : NonceState :=
  if s.expiringNonceRing s.expiringNonceRingPtr = 0 then s
  else s.setSeen (s.expiringNonceRing s.expiringNonceRingPtr) 0

/-- The state after a hash was accepted. -/
def NonceState.accept (s : NonceState) (spec : TempoHardfork) (hash : B256) (validBefore : ℕ) :
    NonceState :=
  ((s.evicted.setRing s.expiringNonceRingPtr hash).setSeen hash validBefore).setRingPtr
    (nextPtr spec s.expiringNonceRingPtr)

/-- Why a call is accepted. -/
structure Accepts (spec : TempoHardfork) (now : ℕ) (hash : B256) (validBefore : ℕ)
    (s : NonceState) : Prop where
  later : now < validBefore
  window : validBefore ≤ min (now + expiringNonceMaxExpirySecs spec) u64Max
  unseen : s.expiringNonceSeen hash ≤ now
  evictable : s.expiringNonceRing s.expiringNonceRingPtr ≠ 0 →
    s.expiringNonceSeen (s.expiringNonceRing s.expiringNonceRingPtr) ≤ now

theorem evict_ok {u : Unit} :
    evict s.expiringNonceRingPtr now s = .ok u s' ↔
      (s.expiringNonceRing s.expiringNonceRingPtr ≠ 0 →
        s.expiringNonceSeen (s.expiringNonceRing s.expiringNonceRingPtr) ≤ now) ∧
      s' = s.evicted := by
  unfold evict NonceState.evicted
  rw [get_bind_ok, onlyIf_ok, require_bind_ok, modify_ok, live_eq_false]
  by_cases hempty : s.expiringNonceRing s.expiringNonceRingPtr = 0
  · simp [hempty, eq_comm]
  · simp [hempty]

/-- A call succeeds exactly if it is accepted, and then it records the hash. -/
theorem checkAndMark_ok {u : Unit} :
    checkAndMarkExpiringNonce spec timestamp hash validBefore s = .ok u s' ↔
      Accepts spec (min timestamp u64Max) hash validBefore s ∧
        s' = s.accept spec hash validBefore := by
  unfold checkAndMarkExpiringNonce
  rw [require_bind_ok, get_bind_ok, require_bind_ok, live_eq_false]
  constructor
  · rintro ⟨hwindow, hunseen, h⟩
    obtain ⟨hlater, hwithin⟩ := of_decide_eq_true hwindow
    obtain ⟨_, t, ⟨hevictable, rfl⟩, h⟩ := step_bind_ok evict_ok.mp h
    rw [modify_bind_ok] at h
    rw [modify_bind_ok] at h
    exact ⟨⟨hlater, hwithin, hunseen, hevictable⟩, modify_ok.mp h⟩
  · rintro ⟨haccepts, rfl⟩
    refine ⟨decide_eq_true ⟨haccepts.later, haccepts.window⟩, haccepts.unseen, ?_⟩
    refine bind_ok.mpr ⟨(), _, evict_ok.mpr ⟨haccepts.evictable, rfl⟩, ?_⟩
    refine bind_ok.mpr ⟨(), _, modify_ok.mpr rfl, ?_⟩
    exact modify_ok.mpr rfl

/-- A call that is in time and not a replay fails at a live entry of the ring. -/
theorem checkAndMark_full (hlater : min timestamp u64Max < validBefore)
    (hwindow : validBefore ≤ min (min timestamp u64Max + expiringNonceMaxExpirySecs spec) u64Max)
    (hunseen : s.expiringNonceSeen hash ≤ min timestamp u64Max)
    (hfilled : s.expiringNonceRing s.expiringNonceRingPtr ≠ 0)
    (hlive : min timestamp u64Max <
      s.expiringNonceSeen (s.expiringNonceRing s.expiringNonceRingPtr)) :
    checkAndMarkExpiringNonce spec timestamp hash validBefore s =
      .error .expiringNonceSetFull s := by
  refine require_bind_error.mpr (.inr ⟨decide_eq_true ⟨hlater, hwindow⟩, ?_⟩)
  refine require_bind_error.mpr (.inr ⟨live_eq_false.mpr hunseen, ?_⟩)
  refine bind_error.mpr (.inl ?_)
  unfold evict onlyIf
  rw [get_bind_error, if_pos hfilled]
  refine require_bind_error.mpr (.inl ⟨?_, rfl, rfl⟩)
  rw [Bool.not_eq_false]
  exact live_eq_true.mpr hlive

theorem evict_error {e : NonceError} (h : evict ptr now s = .error e s') :
    s' = s ∧ s.expiringNonceRing ptr ≠ 0 ∧
      now < s.expiringNonceSeen (s.expiringNonceRing ptr) := by
  unfold evict onlyIf at h
  rw [get_bind_error] at h
  split at h
  · rename_i hfilled
    obtain ⟨hlive, -, rfl⟩ | ⟨-, h⟩ := require_bind_error.mp h
    · rw [Bool.not_eq_false, live_eq_true] at hlive
      exact ⟨rfl, hfilled, hlive⟩
    · exact nomatch h
  · exact nomatch h

/-- A failed call changes nothing, and the ring is full only if it is at a live hash. -/
theorem checkAndMark_error {e : NonceError}
    (h : checkAndMarkExpiringNonce spec timestamp hash validBefore s = .error e s') :
    s' = s ∧ (e = .expiringNonceSetFull →
      s.expiringNonceRing s.expiringNonceRingPtr ≠ 0 ∧
      min timestamp u64Max <
        s.expiringNonceSeen (s.expiringNonceRing s.expiringNonceRingPtr)) := by
  obtain ⟨-, rfl, rfl⟩ | ⟨-, h⟩ := require_bind_error.mp h
  · exact ⟨rfl, nofun⟩
  obtain ⟨-, rfl, rfl⟩ | ⟨-, h⟩ := require_bind_error.mp h
  · exact ⟨rfl, nofun⟩
  obtain hevict | ⟨_, t, -, h⟩ := bind_error.mp h
  · obtain ⟨hsame, hfull⟩ := evict_error hevict
    exact ⟨hsame, fun _ => hfull⟩
  · exact nomatch h

end Monotempo.Nonce
