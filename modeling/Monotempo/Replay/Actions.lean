/-
  What replayed actions do to the slots of a transaction.

  Where the cache can be relied on and slots that are not in it have the recorded values, a
  replayed action accesses its slot as a running program does: a load sees the recorded value,
  and an increment, a decrement or a swap is applied to the value of the block.
-/
import Monotempo.Replay.Recording

set_option autoImplicit false

namespace Monotempo.Replay

open Chain Foundation FeeAmm Function

variable {action : StorageAction} {sloadValue : ℕ} {actions : List StorageAction} {db : Database}
  {recorded base : Storage} {slot other : Slot} {r r' t : StorageActionReplayState}
  {changes : Changes} {written : Option ℕ}

/-! ## The journal -/

theorem changeAt_none (base : Storage) (h : changes slot = none) :
    changeAt base changes slot = ⟨base slot, base slot, false⟩ := by
  rw [changeAt, h]
  rfl

variable {change : SlotChange}

theorem changeAt_some (base : Storage) (h : changes slot = some change) :
    changeAt base changes slot = change := by
  rw [changeAt, h]
  rfl

theorem changeAt_access (written : Option ℕ) (other : Slot) :
    changeAt base (access base changes slot written) other =
      if other = slot then (changeAt base changes slot).access written
      else changeAt base changes other := by
  unfold access
  rw [changeAt]
  by_cases h : other = slot
  · subst h
    simp
  · simp [h, changeAt]

theorem changeAt_access_of_ne (h : other ≠ slot) :
    changeAt base (access base changes slot written) other = changeAt base changes other := by
  rw [changeAt_access, if_neg h]

theorem present_access_of_ne (h : other ≠ slot) :
    present base (access base changes slot written) other = present base changes other := by
  rw [present, changeAt_access_of_ne h, present]

theorem access_of_some (base : Storage) (h : changes slot = some change) :
    access base changes slot none = changes := by
  rw [access, changeAt_some base h]
  exact (congrArg (update changes slot) h.symm).trans (update_eq_self slot changes)

/-- An access after a load is an access. -/
theorem access_loaded :
    access base (access base changes slot none) slot written =
      access base changes slot written := by
  rw [access, changeAt_access, if_pos rfl]
  exact update_idem _ _ _

theorem access_comm (h : slot ≠ other) (value : Option ℕ) :
    access base (access base changes slot written) other value =
      access base (access base changes other value) slot written := by
  rw [access, changeAt_access_of_ne h.symm, access, access, changeAt_access_of_ne h, access]
  exact update_comm h _ _ _

/-! ## Replayed loads and stores -/

/-- The cache can be relied on, and slots that are not in it have the recorded value. -/
structure Trusted (db : Database) (recorded : Storage) : Prop where
  coherent : db.cache.Coherent db.storage
  uncached : ∀ slot, cachedStorageValue db.cache slot = none → db.storage slot = recorded slot

theorem Trusted.getD (h : Trusted db recorded) (slot : Slot) :
    (cachedStorageValue db.cache slot).getD (recorded slot) = db.storage slot := by
  cases hcached : cachedStorageValue db.cache slot with
  | none => exact (h.uncached slot hcached).symm
  | some value => exact (h.coherent slot value hcached).symm

variable {value : ℕ}

theorem firstTouch_ok {current : ℕ} (h : firstTouch slot current r = .ok value r') :
    value = current ∧ r' = r.setChange slot ⟨current, current, false⟩ := by
  have h := modify_bind_ok.mp h
  obtain ⟨rfl, rfl⟩ := pure_ok.mp h
  exact ⟨rfl, rfl⟩

/-- A semantic load sees the value of the block. -/
theorem sloadCurrentOr_ok (htrusted : Trusted db recorded) {fallback : ℕ}
    (hfirst : r.txChanges slot = none → fallback = recorded slot)
    (h : sloadCurrentOr db slot fallback r = .ok value r') :
    value = present db.storage r.txChanges slot ∧
      r'.txChanges = access db.storage r.txChanges slot none := by
  unfold sloadCurrentOr at h
  rw [get_bind_ok] at h
  cases hchange : r.txChanges slot with
  | some change =>
    rw [hchange] at h
    obtain ⟨rfl, rfl⟩ := pure_ok.mp h
    rw [present, changeAt_some db.storage hchange, access_of_some db.storage hchange]
    exact ⟨rfl, rfl⟩
  | none =>
    rw [hchange, hfirst hchange, htrusted.getD] at h
    obtain ⟨rfl, rfl⟩ := firstTouch_ok h
    rw [present, access, changeAt_none db.storage hchange]
    exact ⟨rfl, rfl⟩

/-- An exact load is a semantic one that sees the recorded value. -/
theorem sloadExact_ok {expected : ℕ} (h : sloadExact db slot expected r = .ok value r') :
    sloadCurrentOr db slot expected r = .ok expected r' := by
  unfold sloadExact at h
  unfold sloadCurrentOr
  rw [get_bind_ok] at h ⊢
  cases hchange : r.txChanges slot with
  | some change =>
    rw [hchange] at h
    obtain ⟨hcurrent, h⟩ := require_bind_ok.mp h
    obtain ⟨-, rfl⟩ := pure_ok.mp h
    rw [← hcurrent]
    rfl
  | none =>
    rw [hchange] at h
    obtain ⟨hcurrent, h⟩ := require_bind_ok.mp h
    obtain ⟨rfl, -⟩ := firstTouch_ok h
    rw [hcurrent] at h
    show firstTouch slot _ r = _
    rw [hcurrent]
    exact h

variable {u : Unit}

theorem sstore_loaded (hloaded : r.txChanges = access base changes slot none)
    (h : sstore slot value r = .ok u r') :
    r'.txChanges = access base changes slot (some value) := by
  obtain ⟨change, hchange, h⟩ := okOr_bind_ok.mp h
  obtain rfl := modify_ok.mp h
  rw [hloaded] at hchange
  obtain rfl : changeAt base changes slot = change := by
    simpa [access, SlotChange.access] using hchange
  simp [StorageActionReplayState.setChange, hloaded, access, SlotChange.access]

/-! ## Replayed actions -/

variable {f : ℕ → Option ℕ}

section Actions

variable (htrusted : Trusted db recorded) {value delta : ℕ} {u : Unit}

include htrusted

theorem replay_sload (hfirst : r.txChanges slot = none → value = recorded slot)
    (h : replayAction db (.sload slot value) r = .ok u r') :
    present db.storage r.txChanges slot = value ∧
      r'.txChanges = access db.storage r.txChanges slot none := by
  obtain ⟨_, t, hload, h⟩ := step_bind_ok sloadExact_ok h
  obtain ⟨-, rfl⟩ := pure_ok.mp h
  obtain ⟨hvalue, hloaded⟩ := sloadCurrentOr_ok htrusted hfirst hload
  exact ⟨hvalue.symm, hloaded⟩

theorem replay_sstore (hfirst : r.txChanges slot = none → sloadValue = recorded slot)
    (h : replayAction db (.sstore slot sloadValue value) r = .ok u r') :
    present db.storage r.txChanges slot = sloadValue ∧
      r'.txChanges = access db.storage r.txChanges slot (some value) := by
  obtain ⟨_, t, hload, h⟩ := step_bind_ok sloadExact_ok h
  obtain ⟨hvalue, hloaded⟩ := sloadCurrentOr_ok htrusted hfirst hload
  exact ⟨hvalue.symm, sstore_loaded hloaded h⟩

/-- An action that is applied to the value of the block: its slot, the recorded value, and what
it does. -/
def StorageAction.rebase : StorageAction → Option (Slot × ℕ × (ℕ → Option ℕ))
  | .sinc slot sloadValue delta => some (slot, sloadValue, fun value => checkedAdd256 value delta)
  | .sdec slot sloadValue delta => some (slot, sloadValue, fun value => checkedSub value delta)
  | .feeAmmSwap key sloadValue amountIn =>
    some (poolSlot key, sloadValue, fun value => swapSlot value amountIn)
  | _ => none

theorem replay_rebase (haction : action.rebase = some (slot, sloadValue, f))
    (hfirst : r.txChanges slot = none → sloadValue = recorded slot)
    (h : replayAction db action r = .ok u r') :
    ∃ value, f (present db.storage r.txChanges slot) = some value ∧
      r'.txChanges = access db.storage r.txChanges slot (some value) := by
  have hupdate : ∀ error, (do
      let current ← sloadCurrentOr db slot sloadValue
      let value ← okOr (f current) error
      sstore slot value : ReplayM Unit) r = .ok u r' →
      ∃ value, f (present db.storage r.txChanges slot) = some value ∧
        r'.txChanges = access db.storage r.txChanges slot (some value) := by
    intro error h
    obtain ⟨current, t, ⟨rfl, hloaded⟩, h⟩ := step_bind_ok (sloadCurrentOr_ok htrusted hfirst) h
    obtain ⟨value, hvalue, h⟩ := okOr_bind_ok.mp h
    exact ⟨value, hvalue, sstore_loaded hloaded h⟩
  cases action with
  | sinc slot sloadValue delta =>
    cases haction
    exact hupdate .overflow h
  | sdec slot sloadValue delta =>
    cases haction
    exact hupdate .underflow h
  | feeAmmSwap key sloadValue amountIn =>
    cases haction
    exact hupdate .actionConflict h
  | sload | sstore | feeAmmLiquidityCheck => exact nomatch haction

theorem replay_liquidityCheck {key amountOut : ℕ} {enough : Bool}
    (hfirst : r.txChanges (poolSlot key) = none → sloadValue = recorded (poolSlot key))
    (h : replayAction db (.feeAmmLiquidityCheck key sloadValue amountOut enough) r = .ok u r') :
    hasEnoughReserveValidatorToken (present db.storage r.txChanges (poolSlot key)) amountOut =
        enough ∧
      r'.txChanges = access db.storage r.txChanges (poolSlot key) none := by
  obtain ⟨current, t, ⟨rfl, hloaded⟩, h⟩ := step_bind_ok (sloadCurrentOr_ok htrusted hfirst) h
  obtain ⟨henough, rfl⟩ := require_ok.mp h
  exact ⟨henough, hloaded⟩

end Actions

theorem replayEach_cons :
    replayEach db false (action :: actions) r = .ok u r' ↔
      ∃ t, replayAction db action r = .ok () t ∧ replayEach db false actions t = .ok u r' := by
  rw [replayEach, onlyIf, if_pos (by simp), bind_ok]
  exact ⟨fun ⟨_, t, h⟩ => ⟨t, h⟩, fun ⟨t, h⟩ => ⟨(), t, h⟩⟩

theorem replayEach_append (actions rest : List StorageAction) :
    replayEach db false (actions ++ rest) r = .ok u r' ↔
      ∃ t, replayEach db false actions r = .ok () t ∧ replayEach db false rest t = .ok u r' := by
  induction actions generalizing r with
  | nil => simp [replayEach, pure_ok]
  | cons action actions ih =>
    rw [List.cons_append, replayEach_cons]
    simp only [ih, replayEach_cons]
    exact ⟨fun ⟨s, hs, t, ht, h⟩ => ⟨t, ⟨s, hs, ht⟩, h⟩,
      fun ⟨t, ⟨s, hs, ht⟩, h⟩ => ⟨s, hs, t, ht, h⟩⟩

/-- A load and, where there is one, a write of the loaded slot, both recorded exactly. -/
theorem replay_exact (htrusted : Trusted db recorded)
    (hfirst : r.txChanges slot = none → sloadValue = recorded slot)
    (h : replayEach db false
      (.sload slot sloadValue :: (written.map (.sstore slot sloadValue)).toList) r = .ok u r') :
    present db.storage r.txChanges slot = sloadValue ∧
      r'.txChanges = access db.storage r.txChanges slot written := by
  obtain ⟨t, hload, h⟩ := replayEach_cons.mp h
  obtain ⟨hpresent, hloaded⟩ := replay_sload htrusted hfirst hload
  refine ⟨hpresent, ?_⟩
  cases written with
  | none =>
    obtain ⟨-, rfl⟩ := pure_ok.mp h
    exact hloaded
  | some value =>
    obtain ⟨s, hstore, h⟩ := replayEach_cons.mp h
    obtain ⟨-, rfl⟩ := pure_ok.mp h
    have htouched : t.txChanges slot ≠ none := by simp [hloaded, access]
    obtain ⟨-, hstored⟩ := replay_sstore htrusted (fun hnone => absurd hnone htouched) hstore
    rw [hstored, hloaded, access_loaded]

/-! ## What replayed actions leave alone -/

/-- The slot of an action. -/
def StorageAction.touched : StorageAction → Slot
  | .sload slot _ => slot
  | .sstore slot _ _ => slot
  | .sinc slot _ _ => slot
  | .sdec slot _ _ => slot
  | .feeAmmSwap key _ _ => poolSlot key
  | .feeAmmLiquidityCheck key _ _ _ => poolSlot key

theorem StorageAction.touched_address (action : StorageAction) :
    action.touched.address = action.address := by
  cases action <;> rfl

section Frame

variable {P : StorageActionReplayState → Prop}
  (hset : ∀ r change, P r → P (r.setChange slot change))

include hset

theorem keeps_sstore (value : ℕ) : Keeps P (sstore slot value) :=
  keeps_get_bind fun _ _ => keeps_okOr_bind fun _ _ => keeps_modify fun _ hs => hset _ _ hs

theorem keeps_firstTouch (current : ℕ) : Keeps P (firstTouch slot current) :=
  keeps_bind (keeps_modify fun _ hs => hset _ _ hs) fun _ => keeps_pure _

theorem keeps_sloadExact (expected : ℕ) : Keeps P (sloadExact db slot expected) := by
  refine keeps_get_bind fun s _ => ?_
  split
  · exact keeps_require_bind fun _ => keeps_pure _
  · exact keeps_require_bind fun _ => keeps_firstTouch hset _

theorem keeps_sloadCurrentOr (fallback : ℕ) : Keeps P (sloadCurrentOr db slot fallback) := by
  refine keeps_get_bind fun s _ => ?_
  split
  · exact keeps_pure _
  · exact keeps_firstTouch hset _

end Frame

/-- A replayed action keeps what holds whatever is written to its slot. -/
theorem keeps_replayAction {P : StorageActionReplayState → Prop}
    (hset : ∀ r change, P r → P (r.setChange action.touched change)) :
    Keeps P (replayAction db action) := by
  cases action with
  | sload slot value => exact keeps_bind (keeps_sloadExact hset _) fun _ => keeps_pure _
  | sstore slot sloadValue value =>
    exact keeps_bind (keeps_sloadExact hset _) fun _ => keeps_sstore hset _
  | sinc | sdec | feeAmmSwap =>
    exact keeps_bind (keeps_sloadCurrentOr hset _) fun _ =>
      keeps_okOr_bind fun _ _ => keeps_sstore hset _
  | feeAmmLiquidityCheck key sloadValue amountOut enough =>
    exact keeps_bind (keeps_sloadCurrentOr hset _) fun _ => keeps_require _

end Monotempo.Replay
