/-
  The records of the registry, seen by its tables.

  Each table of the registry is about one view of the records: what a record counts for in the
  table, if it counts.  A write to a record is a write to its views.
-/
import Monotempo.Foundation.StoredSet
import Monotempo.Validators.Effects

set_option autoImplicit false

namespace Monotempo.Validators

open Chain Foundation Function ValidatorConfig

/-! ## Views of records -/

section Views

variable {β : Type} {records : List ValidatorRecord} {g : ValidatorRecord → Option β}
  {f : ValidatorRecord → ValidatorRecord} {i : ℕ} {r : ValidatorRecord}

/-- What the records count for. -/
def view (records : List ValidatorRecord) (g : ValidatorRecord → Option β) (i : ℕ) : Option β :=
  (records[i]?).bind g

theorem view_of_getElem? (h : records[i]? = some r) : view records g i = g r := by
  rw [view, h]
  rfl

theorem view_length : view records g records.length = none := by
  rw [view, List.getElem?_eq_none (Nat.le_refl _)]
  rfl

theorem view_append :
    view (records ++ [r]) g = update (view records g) records.length (g r) := by
  funext j
  by_cases hj : j = records.length
  · subst hj
    rw [update_self, view, List.getElem?_concat_length]
    rfl
  · rw [update_of_ne hj, view, view]
    congr 1
    rcases Nat.lt_or_gt_of_ne hj with hlt | hgt
    · exact List.getElem?_append_left hlt
    · rw [List.getElem?_eq_none (by simp; omega), List.getElem?_eq_none (Nat.le_of_lt hgt)]

theorem getElem?_append_of_some (h : records[i]? = some r) (w : ValidatorRecord) :
    (records ++ [w])[i]? = some r := by
  rw [List.getElem?_append_left (List.getElem?_eq_some_iff.mp h).1, h]

theorem view_modify (h : records[i]? = some r) :
    view (records.modify i f) g = update (view records g) i (g (f r)) := by
  funext j
  by_cases hj : j = i
  · subst hj
    rw [update_self, view, List.getElem?_modify_eq, h]
    rfl
  · rw [update_of_ne hj, view, view, List.getElem?_modify_ne _ _ (Ne.symm hj)]

/-- A write that does not change what a record counts for. -/
theorem view_modify_same (h : ∀ r, records[i]? = some r → g (f r) = g r) :
    view (records.modify i f) g = view records g := by
  cases hr : records[i]? with
  | none =>
    funext j
    by_cases hj : j = i
    · subst hj
      rw [view, view, List.getElem?_modify_eq, hr]
      rfl
    · rw [view, view, List.getElem?_modify_ne _ _ (Ne.symm hj)]
  | some r =>
    have hsame : g r = view records g i := (view_of_getElem? hr).symm
    rw [view_modify hr, h r hr, hsame, update_eq_self]

/-- A record is replaced by one that counts for the same. -/
theorem view_replace {w : ValidatorRecord} (hr : records[i]? = some r) (h : g w = g r) :
    view (records.modify i fun _ => w) g = view records g := by
  refine view_modify_same fun r' hr' => ?_
  obtain rfl := Option.some.inj (hr.symm.trans hr')
  exact h

theorem view_append_none (h : g r = none) : view (records ++ [r]) g = view records g := by
  rw [view_append, h, ← view_length, update_eq_self]

end Views

/-- Every record has its public key. -/
def publicKeyOf (r : ValidatorRecord) : Option B256 := some r.publicKey

/-- Active records have their address. -/
def activeAddressOf (r : ValidatorRecord) : Option Address :=
  if r.deactivatedAtHeight = 0 then some r.validatorAddress else none

/-- Active records have the key of their ingress. -/
def activeIngressOf [Codec] (r : ValidatorRecord) : Option B256 :=
  if r.deactivatedAtHeight = 0 then Codec.ingressKey r.ingress else none

/-- Active records. -/
def activeOf (r : ValidatorRecord) : Option Unit :=
  if r.deactivatedAtHeight = 0 then some () else none

/-- Every record has its place in `active_indices`, which may be zero. -/
def activeIdxOf (r : ValidatorRecord) : Option ℕ := some r.activeIdx

/-- The places in `active_indices`, by what is listed there: one more than the index of a record. -/
def activePosition (records : List ValidatorRecord) : ℕ → ℕ
  | 0 => 0
  | i + 1 => (view records activeIdxOf i).getD 0

theorem activePosition_succ (records : List ValidatorRecord) (i : ℕ) :
    activePosition records (i + 1) = (view records activeIdxOf i).getD 0 := rfl

/-- `active_indices` with the pointers back to it. -/
def ValidatorConfig.activeSet (s : ValidatorConfig) : StoredSet ℕ :=
  ⟨s.activeIndices, activePosition s.validators⟩

/-! ## Fields of a changed registry -/

section Fields

variable {s : ValidatorConfig} {idx activeIdx addedAt deactivatedAt : ℕ}
  {key oldKey newKey pubkey : B256} {addr feeRecipient : Address} {ingress egress : String}

@[simp] theorem moveIngress_validators :
    (s.moveIngress oldKey newKey).validators = s.validators := by
  unfold moveIngress
  split <;> rfl

@[simp] theorem moveIngress_config : (s.moveIngress oldKey newKey).config = s.config := by
  unfold moveIngress
  split <;> rfl

@[simp] theorem moveIngress_activeIndices :
    (s.moveIngress oldKey newKey).activeIndices = s.activeIndices := by
  unfold moveIngress
  split <;> rfl

@[simp] theorem moveIngress_pubkeyToIndex :
    (s.moveIngress oldKey newKey).pubkeyToIndex = s.pubkeyToIndex := by
  unfold moveIngress
  split <;> rfl

@[simp] theorem moveIngress_addressToIndex :
    (s.moveIngress oldKey newKey).addressToIndex = s.addressToIndex := by
  unfold moveIngress
  split <;> rfl

theorem swapAndPop_of_eq (h : activeIdx - 1 = s.activeIndices.length - 1) :
    s.swapAndPop idx activeIdx =
      { s with
        validators := s.validators.modify idx fun r => { r with activeIdx := 0 }
        activeIndices := s.activeIndices.take (s.activeIndices.length - 1) } := by
  unfold swapAndPop
  dsimp only
  rw [if_neg (not_not.mpr h)]
  rfl

/-- The last entry takes the place of another one. -/
theorem swapAndPop_of_ne (h : activeIdx - 1 ≠ s.activeIndices.length - 1) :
    s.swapAndPop idx activeIdx =
      { s with
        validators := (s.validators.modify
          (s.activeIndices.getD (s.activeIndices.length - 1) 0 - 1) fun r =>
            { r with activeIdx := activeIdx - 1 + 1 }).modify idx fun r => { r with activeIdx := 0 }
        activeIndices := (s.activeIndices.set (activeIdx - 1)
          (s.activeIndices.getD (s.activeIndices.length - 1) 0)).take
            (s.activeIndices.length - 1) } := by
  unfold swapAndPop
  dsimp only
  rw [if_pos h]
  rfl

@[simp] theorem swapAndPop_pubkeyToIndex :
    (s.swapAndPop idx activeIdx).pubkeyToIndex = s.pubkeyToIndex := by
  unfold swapAndPop
  dsimp only [modifyRecord]
  split <;> rfl

@[simp] theorem swapAndPop_addressToIndex :
    (s.swapAndPop idx activeIdx).addressToIndex = s.addressToIndex := by
  unfold swapAndPop
  dsimp only [modifyRecord]
  split <;> rfl

@[simp] theorem swapAndPop_activeIngressIps :
    (s.swapAndPop idx activeIdx).activeIngressIps = s.activeIngressIps := by
  unfold swapAndPop
  dsimp only [modifyRecord]
  split <;> rfl

@[simp] theorem swapAndPop_config : (s.swapAndPop idx activeIdx).config = s.config := by
  unfold swapAndPop
  dsimp only [modifyRecord]
  split <;> rfl

@[simp] theorem swapAndPop_validators_length :
    (s.swapAndPop idx activeIdx).validators.length = s.validators.length := by
  unfold swapAndPop
  dsimp only [modifyRecord]
  split <;> simp

/-- The removal writes only places. -/
theorem view_swapAndPop {β : Type} {g : ValidatorRecord → Option β}
    (hg : ∀ r activeIdx, g { r with activeIdx := activeIdx } = g r) :
    view (s.swapAndPop idx activeIdx).validators g = view s.validators g := by
  unfold swapAndPop
  dsimp only [modifyRecord]
  rw [view_modify_same fun r _ => hg r 0]
  split
  · exact view_modify_same fun r _ => hg r _
  · rfl

@[simp] theorem append_validators :
    (s.append addr pubkey ingress egress feeRecipient addedAt deactivatedAt).validators =
      s.validators ++ [⟨pubkey, addr, ingress, egress, feeRecipient, s.validators.length,
        if deactivatedAt = 0 then s.activeIndices.length + 1 else 0, addedAt, deactivatedAt⟩] := by
  unfold append
  dsimp only [setAddressIndex, setPubkeyIndex,
    pushRecord]
  split
  · simp
  · rfl

@[simp] theorem append_activeIndices :
    (s.append addr pubkey ingress egress feeRecipient addedAt deactivatedAt).activeIndices =
      if deactivatedAt = 0 then s.activeIndices ++ [s.validators.length + 1]
      else s.activeIndices := by
  unfold append
  split <;> rfl

@[simp] theorem append_config :
    (s.append addr pubkey ingress egress feeRecipient addedAt deactivatedAt).config = s.config := by
  unfold append
  split <;> rfl

@[simp] theorem append_pubkeyToIndex :
    (s.append addr pubkey ingress egress feeRecipient addedAt deactivatedAt).pubkeyToIndex =
      update s.pubkeyToIndex pubkey (s.validators.length + 1) := by
  unfold append
  split <;> rfl

@[simp] theorem append_addressToIndex :
    (s.append addr pubkey ingress egress feeRecipient addedAt deactivatedAt).addressToIndex =
      update s.addressToIndex addr (s.validators.length + 1) := by
  unfold append
  split <;> rfl

@[simp] theorem append_activeIngressIps :
    (s.append addr pubkey ingress egress feeRecipient addedAt deactivatedAt).activeIngressIps =
      s.activeIngressIps := by
  unfold append
  split <;> rfl

end Fields

/-! ## Places -/

section Places

variable {records : List ValidatorRecord} {r : ValidatorRecord} {i : ℕ}

theorem activePosition_append :
    activePosition (records ++ [r]) =
      update (activePosition records) (records.length + 1) r.activeIdx := by
  funext k
  cases k with
  | zero => rfl
  | succ j =>
    rw [activePosition_succ, view_append]
    by_cases hj : j = records.length
    · subst hj
      simp [activeIdxOf]
    · simp [hj, activePosition_succ]

theorem activePosition_modify {f : ValidatorRecord → ValidatorRecord}
    (h : records[i]? = some r) :
    activePosition (records.modify i f) =
      update (activePosition records) (i + 1) (f r).activeIdx := by
  funext k
  cases k with
  | zero => rfl
  | succ j =>
    rw [activePosition_succ, view_modify h]
    by_cases hj : j = i
    · subst hj
      simp [activeIdxOf]
    · simp [hj, activePosition_succ]

/-- Places are those of the view. -/
theorem activePosition_congr {records' : List ValidatorRecord}
    (h : view records' activeIdxOf = view records activeIdxOf) :
    activePosition records' = activePosition records := by
  funext k
  cases k with
  | zero => rfl
  | succ j => rw [activePosition_succ, activePosition_succ, h]

theorem activePosition_append_zero (h : r.activeIdx = 0) :
    activePosition (records ++ [r]) = activePosition records := by
  have hbeyond : activePosition records (records.length + 1) = 0 := by
    rw [activePosition_succ, view_length]
    rfl
  rw [activePosition_append, h, ← hbeyond, update_eq_self]

theorem activePosition_of_getElem? (h : records[i]? = some r) :
    activePosition records (i + 1) = r.activeIdx := by
  rw [activePosition_succ, view_of_getElem? h]
  rfl

theorem getElem?_of_activePosition {k : ℕ} (h : activePosition records k ≠ 0) :
    ∃ j v, k = j + 1 ∧ records[j]? = some v := by
  cases k with
  | zero => exact absurd rfl h
  | succ j =>
    rw [activePosition_succ, view] at h
    cases hv : records[j]? with
    | none =>
      rw [hv] at h
      exact absurd rfl h
    | some v => exact ⟨j, v, rfl, hv⟩

end Places

section Removal

variable {s : ValidatorConfig} {idx : ℕ} {v : ValidatorRecord}

/-- The removal from `active_indices` is the removal from a stored set. -/
theorem activeSet_swapAndPop (hintact : s.activeSet.Intact) (hfound : s.validators[idx]? = some v)
    (hplace : v.activeIdx ≠ 0) :
    (s.swapAndPop idx v.activeIdx).activeSet = (s.activeSet.remove (idx + 1)).2 := by
  have hposition : s.activeSet.positions (idx + 1) = v.activeIdx :=
    activePosition_of_getElem? hfound
  rw [← hposition] at hplace
  by_cases hlast : s.activeSet.positions (idx + 1) - 1 = s.activeIndices.length - 1
  · rw [StoredSet.remove_of_eq hplace hlast]
    rw [hposition] at hlast
    rw [swapAndPop_of_eq hlast]
    unfold activeSet
    rw [activePosition_modify hfound]
  · rw [StoredSet.remove_of_ne hplace hlast]
    -- the entry that is moved is listed, so it is a record
    have hmoved : s.activeIndices.getD (s.activeIndices.length - 1) 0 ∈ s.activeIndices := by
      have hmem : idx + 1 ∈ s.activeIndices := hintact.mem_iff.mpr hplace
      have hlength : s.activeIndices.length - 1 < s.activeIndices.length :=
        Nat.sub_lt (List.length_pos_of_mem hmem) Nat.one_pos
      rw [List.getD_eq_getElem?_getD, List.getElem?_eq_getElem hlength]
      exact List.getElem_mem hlength
    obtain ⟨j, w, hj, hw⟩ := getElem?_of_activePosition (hintact.mem_iff.mp hmoved)
    rw [hposition] at hlast hplace
    have hrestored : v.activeIdx - 1 + 1 = v.activeIdx := Nat.succ_pred hplace
    have hvalidator : ∃ w', (s.validators.modify j fun r =>
        { r with activeIdx := v.activeIdx })[idx]? = some w' := by
      rw [List.getElem?_modify, hfound]
      exact ⟨_, rfl⟩
    obtain ⟨w', hw'⟩ := hvalidator
    rw [swapAndPop_of_ne hlast, hj, Nat.add_sub_cancel, hrestored]
    unfold activeSet
    rw [activePosition_modify hw', activePosition_modify hw, ← hj, ← hposition]
    rfl

end Removal

end Monotempo.Validators
