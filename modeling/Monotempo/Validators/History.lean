/-
  Past validator sets, read off the present records.

  A record says from which height on it counts and up to which.  What is done in a block writes no
  height below it, so that the records keep what they say about earlier blocks.
-/
import Monotempo.Validators.Consistency
import Mathlib.Data.Set.Basic

set_option autoImplicit false

namespace Monotempo.Validators

open Chain Foundation Function

/-! ## Sets of public keys -/

/-- The public keys of the validators that are active. -/
def ValidatorConfig.activeKeys (s : ValidatorConfig) : Set B256 :=
  {pubkey | ∃ v ∈ s.getActiveValidators, v.publicKey = pubkey}

/-- The public keys that were active at the end of a block, by the heights in the records. -/
def ValidatorConfig.keysAt (s : ValidatorConfig) (height : ℕ) : Set B256 :=
  {pubkey | ∃ r ∈ s.validators, r.publicKey = pubkey ∧ r.addedAtHeight ≤ height ∧
    (r.deactivatedAtHeight = 0 ∨ height < r.deactivatedAtHeight)}

/-- What a record counts for at a height. -/
def keyAt (height : ℕ) (r : ValidatorRecord) : Option B256 :=
  if r.addedAtHeight ≤ height ∧ (r.deactivatedAtHeight = 0 ∨ height < r.deactivatedAtHeight) then
    some r.publicKey
  else none

variable {s s' : ValidatorConfig} {block height : ℕ} {pubkey : B256}

variable {r : ValidatorRecord}

theorem keyAt_eq_some :
    keyAt height r = some pubkey ↔ r.publicKey = pubkey ∧ r.addedAtHeight ≤ height ∧
      (r.deactivatedAtHeight = 0 ∨ height < r.deactivatedAtHeight) := by
  unfold keyAt
  split
  · rename_i hcounts
    simp [hcounts]
  · rename_i hcounts
    simp only [reduceCtorEq, false_iff]
    exact fun h => hcounts h.2

/-- A record that is added later does not count. -/
theorem keyAt_of_lt (h : height < r.addedAtHeight) : keyAt height r = none :=
  if_neg fun hcounts => absurd h (Nat.not_lt.mpr hcounts.1)

/-- The end of an active record after the height does not matter at the height. -/
theorem keyAt_deactivated {v w : ValidatorRecord} (hactive : v.deactivatedAtHeight = 0)
    (hend : height < w.deactivatedAtHeight) (hpubkey : w.publicKey = v.publicKey)
    (hadded : w.addedAtHeight = v.addedAtHeight) : keyAt height w = keyAt height v := by
  unfold keyAt
  simp only [hactive, hend, hpubkey, hadded, true_or, or_true, and_true]

theorem mem_keysAt : pubkey ∈ s.keysAt height ↔
    ∃ i, view s.validators (keyAt height) i = some pubkey := by
  constructor
  · rintro ⟨r, hr, hcounts⟩
    obtain ⟨i, hi⟩ := List.getElem?_of_mem hr
    exact ⟨i, (view_of_getElem? hi).trans (keyAt_eq_some.mpr hcounts)⟩
  · rintro ⟨i, hi⟩
    obtain ⟨r, hr, hcounts⟩ := Option.bind_eq_some_iff.mp hi
    exact ⟨r, List.mem_of_getElem? hr, keyAt_eq_some.mp hcounts⟩

theorem keysAt_congr (h : view s'.validators (keyAt height) = view s.validators (keyAt height)) :
    s'.keysAt height = s.keysAt height := by
  ext pubkey
  rw [mem_keysAt, mem_keysAt, h]

/-! ## Later blocks -/

/-- What an entry counted for goes over to an entry that counted for nothing. -/
theorem exists_handOver {w : ℕ → Option B256} {i j : ℕ} (hj : w j = none) :
    (∃ m, update (update w j (w i)) i none m = some pubkey) ↔
      ∃ m, w m = some pubkey := by
  constructor
  · rintro ⟨m, hm⟩
    by_cases hmi : m = i
    · subst hmi
      rw [update_self] at hm
      exact nomatch hm
    · rw [update_of_ne hmi] at hm
      by_cases hmj : m = j
      · subst hmj
        rw [update_self] at hm
        exact ⟨i, hm⟩
      · rw [update_of_ne hmj] at hm
        exact ⟨m, hm⟩
  · rintro ⟨m, hm⟩
    have hmj : m ≠ j := by
      rintro rfl
      rw [hj] at hm
      exact nomatch hm
    by_cases hmi : m = i
    · subst hmi
      refine ⟨j, ?_⟩
      rw [update_of_ne (Ne.symm hmj), update_self, hm]
    · refine ⟨m, ?_⟩
      rw [update_of_ne hmi, update_of_ne hmj, hm]

variable [Codec]

/-- What is done after a height leaves the keys at the height. -/
theorem Effect.keysAt (heffect : Effect block s s') (hlater : height < block) :
    s'.keysAt height = s.keysAt height := by
  cases heffect with
  | configured config epoch hinit => rfl
  | added config hinit hpubkey haddr hkey hingress =>
    refine keysAt_congr ?_
    show view (ValidatorConfig.append _ _ _ _ _ _ _ _).validators _ = _
    exact view_append_none (keyAt_of_lt hlater)
  | retired config hinit hpubkey haddr =>
    refine keysAt_congr ?_
    rw [append_validators]
    exact view_append_none (keyAt_of_lt hlater)
  | deactivated hactive hkey =>
    refine keysAt_congr ?_
    rw [view_swapAndPop fun _ _ => rfl]
    refine view_modify_same fun r hr => ?_
    obtain rfl := Option.some.inj (hactive.1.symm.trans hr)
    exact keyAt_deactivated hactive.2 hlater rfl rfl
  | @rotated idx v newPubkey oldKey newKey ingress egress hactive hpubkey hold hnew hingress =>
    have hfound := getElem?_append_of_some hactive.1 (v.snapshot s.validators.length block)
    have hends : keyAt height (v.snapshot s.validators.length block) = keyAt height v :=
      keyAt_deactivated hactive.2 hlater rfl rfl
    have hsnapshot := hends.trans (hactive.view_eq (keyAt height)).symm
    have hrenewed : keyAt height (v.renewed newPubkey ingress egress block) = none :=
      keyAt_of_lt hlater
    ext pubkey
    rw [mem_keysAt, mem_keysAt]
    show (∃ i, view (((s.moveIngress oldKey newKey).validators ++
      [v.snapshot s.validators.length block]).modify idx _) (keyAt height) i = _) ↔ _
    rw [moveIngress_validators, view_modify hfound, view_append, hsnapshot, hrenewed]
    exact exists_handOver view_length
  | feeChanged feeRecipient hactive | transferred hactive haddr =>
    exact keysAt_congr (view_replace hactive.1 rfl)
  | moved hactive hold hnew hingress =>
    refine keysAt_congr ?_
    show view ((s.moveIngress _ _).validators.modify _ _) _ = _
    rw [moveIngress_validators]
    exact view_replace hactive.1 rfl

variable {txs : List Tx}

theorem run_keysAt (hlater : ∀ tx ∈ txs, height < tx.ctx.blockNumber) :
    (s.run txs).keysAt height = s.keysAt height := by
  induction txs generalizing s with
  | nil => rfl
  | cons tx txs ih =>
    have hstep : (s.transact tx).keysAt height = s.keysAt height := by
      obtain hsame | heffect := transact_effect s tx
      · rw [hsame]
      · exact heffect.keysAt (hlater tx List.mem_cons_self)
    exact (ih fun tx' hmem => hlater tx' (List.mem_cons_of_mem tx hmem)).trans hstep

/-! ## Earlier blocks -/

/-- The heights of a record. -/
def heightsOf (r : ValidatorRecord) : Option (ℕ × ℕ) :=
  some (r.addedAtHeight, r.deactivatedAtHeight)

/-- No record has a height above a bound. -/
def ValidatorConfig.UpTo (height : ℕ) (s : ValidatorConfig) : Prop :=
  ∀ i heights, view s.validators heightsOf i = some heights →
    heights.1 ≤ height ∧ heights.2 ≤ height

omit [Codec] in
/-- What holds of all entries holds of them after a write. -/
theorem forall_update {β : Type} {P : β → Prop} {w : ℕ → Option β} {i : ℕ} {y : β}
    (h : ∀ j x, w j = some x → P x) (hy : P y) (j : ℕ) (x : β)
    (hj : update w i (some y) j = some x) : P x := by
  by_cases hji : j = i
  · subst hji
    rw [update_self] at hj
    obtain rfl := Option.some.inj hj
    exact hy
  · rw [update_of_ne hji] at hj
    exact h j x hj

/-- What is done up to a height writes no height above it. -/
theorem Effect.upTo (heffect : Effect block s s') (hblock : block ≤ height)
    (h : s.UpTo height) : s'.UpTo height := by
  have hbound : ∀ {idx : ℕ} {v : ValidatorRecord}, s.ActiveAt idx v →
      v.addedAtHeight ≤ height ∧ v.deactivatedAtHeight ≤ height :=
    fun hactive => h _ _ (hactive.view_eq heightsOf)
  unfold ValidatorConfig.UpTo
  cases heffect with
  | configured config epoch hinit => exact h
  | added config hinit hpubkey haddr hkey hingress =>
    show ∀ i heights, view (ValidatorConfig.append _ _ _ _ _ _ _ _).validators _ i = _ → _
    rw [append_validators, view_append]
    exact forall_update h ⟨hblock, Nat.zero_le _⟩
  | retired config hinit hpubkey haddr =>
    rw [append_validators, view_append]
    exact forall_update h ⟨hblock, hblock⟩
  | deactivated hactive hkey =>
    rw [view_swapAndPop fun _ _ => rfl]
    show ∀ i heights, view (s.validators.modify _ _) _ i = _ → _
    rw [view_modify hactive.1]
    exact forall_update h ⟨(hbound hactive).1, hblock⟩
  | @rotated idx v newPubkey oldKey newKey ingress egress hactive hpubkey hold hnew hingress =>
    have hfound := getElem?_append_of_some hactive.1 (v.snapshot s.validators.length block)
    show ∀ i heights, view (((s.moveIngress oldKey newKey).validators ++
      [v.snapshot s.validators.length block]).modify idx _) heightsOf i = _ → _
    rw [moveIngress_validators, view_modify hfound, view_append]
    exact forall_update (forall_update h ⟨(hbound hactive).1, hblock⟩)
      ⟨hblock, (hbound hactive).2⟩
  | feeChanged feeRecipient hactive | transferred hactive haddr =>
    show ∀ i heights, view (s.validators.modify _ _) _ i = _ → _
    rw [view_replace hactive.1]
    · exact h
    · rfl
  | moved hactive hold hnew hingress =>
    show ∀ i heights, view ((s.moveIngress _ _).validators.modify _ _) _ i = _ → _
    rw [moveIngress_validators, view_replace hactive.1]
    · exact h
    · rfl

theorem mem_activeKeys (h : Consistent s) :
    pubkey ∈ s.activeKeys ↔ ∃ i v, s.ActiveAt i v ∧ v.publicKey = pubkey := by
  have hread : ∀ {i : ℕ} {v : ValidatorRecord}, s.ActiveAt i v →
      s.readValidatorAt (i + 1 - 1) = v := by
    intro i v hactive
    rw [ValidatorConfig.readValidatorAt, List.getD_eq_getElem?_getD, Nat.add_sub_cancel, hactive.1]
    rfl
  constructor
  · rintro ⟨v, hv, hpubkey⟩
    obtain ⟨k, hk, rfl⟩ := List.mem_map.mp hv
    obtain ⟨i, v, rfl, hactive⟩ := (h.lists k).mp hk
    rw [hread hactive] at hpubkey
    exact ⟨i, v, hactive, hpubkey⟩
  · rintro ⟨i, v, hactive, hpubkey⟩
    refine ⟨v, List.mem_map.mpr ⟨i + 1, (h.lists _).mpr ⟨i, v, rfl, hactive⟩, ?_⟩, hpubkey⟩
    exact hread hactive

/-- With no height above a bound, the keys at the bound are the active ones. -/
theorem ValidatorConfig.UpTo.activeKeys (h : s.UpTo height) (hconsistent : Consistent s) :
    s.activeKeys = s.keysAt height := by
  ext pubkey
  rw [mem_activeKeys hconsistent, mem_keysAt]
  constructor
  · rintro ⟨i, v, hactive, hpubkey⟩
    refine ⟨i, (hactive.view_eq _).trans (keyAt_eq_some.mpr ⟨hpubkey, ?_, .inl hactive.2⟩)⟩
    exact (h i _ (hactive.view_eq heightsOf)).1
  · rintro ⟨i, hi⟩
    obtain ⟨v, hv, hcounts⟩ := Option.bind_eq_some_iff.mp hi
    obtain ⟨hpubkey, -, hend⟩ := keyAt_eq_some.mp hcounts
    have hbound : v.deactivatedAtHeight ≤ height :=
      (h i _ (view_of_getElem? hv : view s.validators heightsOf i = _)).2
    exact ⟨i, v, ⟨hv, hend.resolve_right (Nat.not_lt.mpr hbound)⟩, hpubkey⟩

/-! ## Reconstruction -/

theorem run_activeKeys (hintact : Intact s) (hupTo : s.UpTo height)
    (hblocks : ∀ tx ∈ txs, 1 ≤ tx.ctx.blockNumber)
    (hsorted : txs.Pairwise fun tx tx' => tx.ctx.blockNumber ≤ tx'.ctx.blockNumber) :
    (s.run (txs.takeWhile fun tx => tx.ctx.blockNumber ≤ height)).activeKeys =
      (s.run txs).keysAt height := by
  induction txs generalizing s with
  | nil => exact hupTo.activeKeys hintact.consistent
  | cons tx txs ih =>
    obtain ⟨hfirst, hsorted⟩ := List.pairwise_cons.mp hsorted
    by_cases hblock : tx.ctx.blockNumber ≤ height
    · rw [List.takeWhile_cons_of_pos (by simpa using hblock)]
      refine ih (hintact.transact (hblocks tx List.mem_cons_self)) ?_
        (fun tx' hmem => hblocks tx' (List.mem_cons_of_mem tx hmem)) hsorted
      obtain hsame | heffect := transact_effect s tx
      · rwa [hsame]
      · exact heffect.upTo hblock hupTo
    · -- from here on all blocks are later
      rw [List.takeWhile_cons_of_neg (by simpa using hblock)]
      have hlater : ∀ tx' ∈ tx :: txs, height < tx'.ctx.blockNumber := by
        intro tx' hmem
        rcases List.mem_cons.mp hmem with rfl | hmem
        · exact Nat.lt_of_not_le hblock
        · exact Nat.lt_of_lt_of_le (Nat.lt_of_not_le hblock) (hfirst tx' hmem)
      rw [run_keysAt hlater]
      exact hupTo.activeKeys hintact.consistent

/-- Over transactions in order of their blocks, the validators that were active at the end of a
block are those that the final records give for its height. -/
theorem validator_history_reconstructed (config : Config) (txs : List Tx)
    (hblocks : ∀ tx ∈ txs, 1 ≤ tx.ctx.blockNumber)
    (hsorted : txs.Pairwise fun tx tx' => tx.ctx.blockNumber ≤ tx'.ctx.blockNumber)
    (height : ℕ) :
    ((ValidatorConfig.start config).run
        (txs.takeWhile fun tx => tx.ctx.blockNumber ≤ height)).activeKeys =
      ((ValidatorConfig.start config).run txs).keysAt height :=
  run_activeKeys (Intact.start config) nofun hblocks hsorted

omit [Codec] in
theorem validator_history_reconstructed_sample :
    let _ : Codec := sampleCodec
    100 ∈ ((ValidatorConfig.start ⟨1, true, 0, 0, 0⟩).run
        (sampleTxs.takeWhile fun tx => tx.ctx.blockNumber ≤ 5)).activeKeys ∧
      100 ∈ ((ValidatorConfig.start ⟨1, true, 0, 0, 0⟩).run sampleTxs).keysAt 5 ∧
      101 ∈ ((ValidatorConfig.start ⟨1, true, 0, 0, 0⟩).run sampleTxs).keysAt 7 := by
  intro codec
  have hblocks : ∀ tx ∈ sampleTxs, 1 ≤ tx.ctx.blockNumber := by decide
  have hsorted : sampleTxs.Pairwise fun tx tx' => tx.ctx.blockNumber ≤ tx'.ctx.blockNumber := by
    decide
  have hearly := validator_history_reconstructed ⟨1, true, 0, 0, 0⟩ sampleTxs hblocks hsorted 5
  have hactive : 100 ∈ ((ValidatorConfig.start ⟨1, true, 0, 0, 0⟩).run
      (sampleTxs.takeWhile fun tx => tx.ctx.blockNumber ≤ 5)).activeKeys :=
    ⟨⟨100, 7, "a", "e", 0, 0, 1, 5, 0⟩, by decide +kernel, rfl⟩
  refine ⟨hactive, hearly ▸ hactive, ?_⟩
  rw [← validator_history_reconstructed ⟨1, true, 0, 0, 0⟩ sampleTxs hblocks hsorted 7]
  exact ⟨⟨101, 7, "ccc", "e", 0, 0, 1, 6, 0⟩, by decide +kernel, rfl⟩

end Monotempo.Validators
