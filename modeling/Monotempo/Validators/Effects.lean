/-
  What a call does to the registry.

  Every call that succeeds has one of a few effects, with what its checks have found.
-/
import Monotempo.Validators.Registry

set_option autoImplicit false

namespace Monotempo.Validators

open Chain Foundation

variable {block : ℕ} {ingress egress : String} [Codec] {s s' t : ValidatorConfig} {u : Unit}

/-! ## Effects -/

/-- `require_new_address` would pass. -/
def ValidatorConfig.FreeAddress (s : ValidatorConfig) (addr : Address) : Prop :=
  ¬ (s.addressToIndex addr ≠ 0 ∧ s.deactivatedAt (s.addressToIndex addr - 1) = 0)

/-- What `update_ingress_ip_tracking` writes. -/
def ValidatorConfig.moveIngress (s : ValidatorConfig) (oldKey newKey : B256) : ValidatorConfig :=
  if oldKey ≠ newKey then (s.setIngressIp oldKey false).setIngressIp newKey true else s

/-- The old identity of a validator that is rotated. -/
def ValidatorRecord.snapshot (v : ValidatorRecord) (index height : ℕ) : ValidatorRecord :=
  { v with index := index, activeIdx := 0, deactivatedAtHeight := height }

/-- The new identity of a validator that is rotated. -/
def ValidatorRecord.renewed (v : ValidatorRecord) (pubkey : B256) (ingress egress : String)
    (height : ℕ) : ValidatorRecord :=
  { v with publicKey := pubkey, ingress := ingress, egress := egress, addedAtHeight := height }

/-- A record that is active. -/
def ValidatorConfig.ActiveAt (s : ValidatorConfig) (idx : ℕ) (v : ValidatorRecord) : Prop :=
  s.validators[idx]? = some v ∧ v.deactivatedAtHeight = 0

/-- What a call does in a block. -/
inductive Effect (block : ℕ) (s : ValidatorConfig) : ValidatorConfig → Prop where
  | configured (config : Config) (epoch : ℕ)
      (staysInit : s.config.isInit = true → config.isInit = true) :
      Effect block s { s with config := config, nextNetworkIdentityRotationEpoch := epoch }
  | added (config : Config) {addr feeRecipient : Address} {pubkey key : B256}
      {ingress egress : String} (staysInit : s.config.isInit = true → config.isInit = true)
      (pubkeyNew : s.pubkeyToIndex pubkey = 0)
      (addressFree : s.FreeAddress addr) (hkey : Codec.ingressKey ingress = some key)
      (ingressFree : s.activeIngressIps key = false) :
      Effect block s ((({ s with config := config }).append addr pubkey ingress egress feeRecipient
        block 0).setIngressIp key true)
  | retired (config : Config) {addr feeRecipient : Address} {pubkey : B256}
      {ingress egress : String} (staysInit : s.config.isInit = true → config.isInit = true)
      (pubkeyNew : s.pubkeyToIndex pubkey = 0)
      (addressFree : s.FreeAddress addr) :
      Effect block s (({ s with config := config }).append addr pubkey ingress egress feeRecipient
        block block)
  | deactivated {idx : ℕ} {v : ValidatorRecord} {key : B256} (active : s.ActiveAt idx v)
      (hkey : Codec.ingressKey v.ingress = some key) :
      Effect block s (((s.setIngressIp key false).modifyRecord idx fun r =>
        { r with deactivatedAtHeight := block }).swapAndPop idx v.activeIdx)
  | rotated {idx : ℕ} {v : ValidatorRecord} {pubkey oldKey newKey : B256}
      {ingress egress : String} (active : s.ActiveAt idx v)
      (pubkeyNew : s.pubkeyToIndex pubkey = 0) (hold : Codec.ingressKey v.ingress = some oldKey)
      (hnew : Codec.ingressKey ingress = some newKey)
      (ingressFree : s.activeIngressIps newKey = false) :
      Effect block s (((((s.moveIngress oldKey newKey).pushRecord
        (v.snapshot s.validators.length block)).setPubkeyIndex v.publicKey
        (s.validators.length + 1)).modifyRecord idx fun r =>
          r.renewed pubkey ingress egress block).setPubkeyIndex pubkey (idx + 1))
  | feeChanged {idx : ℕ} {v : ValidatorRecord} (feeRecipient : Address)
      (active : s.ActiveAt idx v) :
      Effect block s (s.modifyRecord idx fun _ => { v with feeRecipient := feeRecipient })
  | moved {idx : ℕ} {v : ValidatorRecord} {oldKey newKey : B256} {ingress egress : String}
      (active : s.ActiveAt idx v) (hold : Codec.ingressKey v.ingress = some oldKey)
      (hnew : Codec.ingressKey ingress = some newKey)
      (ingressFree : oldKey ≠ newKey → s.activeIngressIps newKey = false) :
      Effect block s ((s.moveIngress oldKey newKey).modifyRecord idx fun _ =>
        { v with ingress := ingress, egress := egress })
  | transferred {idx : ℕ} {v : ValidatorRecord} {addr : Address} (active : s.ActiveAt idx v)
      (addressFree : s.FreeAddress addr) :
      Effect block s (((s.modifyRecord idx fun _ =>
        { v with validatorAddress := addr }).setAddressIndex v.validatorAddress 0).setAddressIndex
          addr (idx + 1))

/-! ## Guards -/

omit [Codec] in
theorem getActiveValidator_ok {idx : ℕ} {v : ValidatorRecord}
    (h : getActiveValidator idx s = .ok v s') : s' = s ∧ s.ActiveAt idx v := by
  unfold getActiveValidator at h
  obtain ⟨v', hfound, h⟩ := okOr_bind_ok.mp h
  obtain ⟨hactive, h⟩ := require_bind_ok.mp h
  obtain ⟨rfl, rfl⟩ := pure_ok.mp h
  exact ⟨rfl, hfound, hactive⟩

variable {addr : Address}

omit [Codec] in
theorem requireNewAddress_ok (h : requireNewAddress addr s = .ok u s') :
    s' = s ∧ s.FreeAddress addr := by
  replace h := require_rest h
  obtain ⟨hfree, rfl⟩ := require_ok.mp h
  exact ⟨rfl, hfree⟩

variable {pubkey : B256}

omit [Codec] in
theorem requireNewPubkey_ok (h : requireNewPubkey pubkey s = .ok u s') :
    s' = s ∧ s.pubkeyToIndex pubkey = 0 := by
  replace h := require_rest h
  obtain ⟨hnew, rfl⟩ := require_ok.mp h
  exact ⟨rfl, hnew⟩

theorem validateEndpoints_ok (h : validateEndpoints ingress egress s = .ok u s') :
    s' = s ∧ Codec.isIp egress = true := by
  replace h := require_rest h
  obtain ⟨hip, rfl⟩ := require_ok.mp h
  exact ⟨rfl, hip⟩

theorem requireUniqueIngress_ok {key : B256} (h : requireUniqueIngress ingress s = .ok key s') :
    s' = s ∧ Codec.ingressKey ingress = some key ∧ s.activeIngressIps key = false := by
  obtain ⟨key', hkey, h⟩ := okOr_bind_ok.mp h
  obtain ⟨hfree, h⟩ := require_bind_ok.mp h
  obtain ⟨rfl, rfl⟩ := pure_ok.mp h
  exact ⟨rfl, hkey, hfree⟩

theorem updateIngressIpTracking_ok {oldIngress newIngress : String}
    (h : updateIngressIpTracking oldIngress newIngress s = .ok u s') :
    ∃ oldKey newKey, Codec.ingressKey oldIngress = some oldKey ∧
      Codec.ingressKey newIngress = some newKey ∧
      (oldKey ≠ newKey → s.activeIngressIps newKey = false) ∧
      s' = s.moveIngress oldKey newKey := by
  obtain ⟨oldKey, hold, h⟩ := okOr_bind_ok.mp h
  obtain ⟨newKey, hnew, h⟩ := okOr_bind_ok.mp h
  refine ⟨oldKey, newKey, hold, hnew, ?_⟩
  unfold ValidatorConfig.moveIngress
  rcases onlyIf_ok.mp h with ⟨hne, h⟩ | ⟨hsame, rfl⟩
  · rw [get_bind_ok] at h
    obtain ⟨hfree, h⟩ := require_bind_ok.mp h
    rw [if_pos hne]
    exact ⟨fun _ => hfree, modify_ok.mp h⟩
  · rw [if_neg hsame]
    exact ⟨fun hne => absurd hne hsame, rfl⟩

theorem verifyValidatorSignature_ok {kind : SignatureKind} {signature : List UInt8}
    (h : verifyValidatorSignature kind pubkey signature addr ingress egress s = .ok u s') :
    s' = s ∧ Codec.verifies kind pubkey signature addr ingress egress = true := by
  replace h := require_rest h
  replace h := require_rest h
  obtain ⟨hverified, rfl⟩ := require_ok.mp h
  exact ⟨rfl, hverified⟩

/-! ## Calls -/

variable {ctx : Context} {sender : Address} {idx : ℕ}

theorem addValidator_effect {call : AddValidatorCall}
    (h : addValidator ctx sender call s = .ok u s') : Effect ctx.blockNumber s s' := by
  unfold addValidator at h
  replace h := require_rest h
  replace h := require_rest h
  obtain ⟨_, hpubkeyNew, h⟩ := guard_bind_ok requireNewPubkey_ok h
  obtain ⟨_, haddressFree, h⟩ := guard_bind_ok requireNewAddress_ok h
  obtain ⟨_, -, h⟩ := guard_bind_ok validateEndpoints_ok h
  obtain ⟨key, ⟨hkey, hfree⟩, h⟩ := guard_bind_ok requireUniqueIngress_ok h
  obtain ⟨_, -, h⟩ := guard_bind_ok verifyValidatorSignature_ok h
  rw [modify_bind_ok] at h
  obtain rfl := modify_ok.mp h
  exact .added _ id hpubkeyNew haddressFree hkey hfree

theorem deactivateValidator_ok (h : deactivateValidator ctx sender idx s = .ok u s') :
    ∃ v key, s.ActiveAt idx v ∧ Codec.ingressKey v.ingress = some key ∧
      s' = ((s.setIngressIp key false).modifyRecord idx fun r =>
        { r with deactivatedAtHeight := ctx.blockNumber }).swapAndPop idx v.activeIdx := by
  obtain ⟨v, hactive, h⟩ := guard_bind_ok getActiveValidator_ok h
  replace h := require_rest h
  obtain ⟨key, hkey, h⟩ := okOr_bind_ok.mp h
  rw [modify_bind_ok] at h
  rw [modify_bind_ok] at h
  exact ⟨v, key, hactive, hkey, modify_ok.mp h⟩

theorem rotateValidator_effect {call : RotateValidatorCall}
    (h : rotateValidator ctx sender call s = .ok u s') : Effect ctx.blockNumber s s' := by
  obtain ⟨v, hactive, h⟩ := guard_bind_ok getActiveValidator_ok h
  replace h := require_rest h
  replace h := require_rest h
  obtain ⟨_, hpubkeyNew, h⟩ := guard_bind_ok requireNewPubkey_ok h
  obtain ⟨_, -, h⟩ := guard_bind_ok validateEndpoints_ok h
  obtain ⟨key, ⟨hkey, hfree⟩, h⟩ := guard_bind_ok requireUniqueIngress_ok h
  obtain ⟨_, -, h⟩ := guard_bind_ok verifyValidatorSignature_ok h
  obtain ⟨_, _, ⟨oldKey, newKey, hold, hnew, -, rfl⟩, h⟩ :=
    step_bind_ok updateIngressIpTracking_ok h
  obtain rfl : key = newKey := Option.some.inj (hkey.symm.trans hnew)
  rw [modify_bind_ok] at h
  rw [modify_bind_ok] at h
  rw [modify_bind_ok] at h
  obtain rfl := modify_ok.mp h
  exact .rotated hactive hpubkeyNew hold hnew hfree

omit [Codec] in
/-- The guards of a change that a validator or the owner may make. -/
theorem ownerOrValidator_ok {f : ValidatorRecord → ValidatorM Unit}
    (h : (do
      let v ← getActiveValidator idx
      let s ← get
      requireInit s.config
      requireOwnerOrValidator s.config sender v.validatorAddress
      f v : ValidatorM Unit) s = .ok u s') :
    s.config.isInit = true ∧ ∃ v, s.ActiveAt idx v ∧ f v s = .ok u s' := by
  obtain ⟨v, hactive, h⟩ := guard_bind_ok getActiveValidator_ok h
  obtain ⟨hinit, h⟩ := require_bind_ok.mp h
  replace h := require_rest h
  exact ⟨hinit, v, hactive, h⟩

theorem setFeeRecipient_effect {feeRecipient : Address}
    (h : setFeeRecipient sender idx feeRecipient s = .ok u s') : Effect block s s' := by
  obtain ⟨-, v, hactive, h⟩ := ownerOrValidator_ok h
  obtain rfl := modify_ok.mp h
  exact .feeChanged feeRecipient hactive

theorem setIpAddresses_effect (h : setIpAddresses sender idx ingress egress s = .ok u s') :
    Effect block s s' := by
  obtain ⟨-, v, hactive, h⟩ := ownerOrValidator_ok h
  obtain ⟨_, -, h⟩ := guard_bind_ok validateEndpoints_ok h
  obtain ⟨_, _, ⟨oldKey, newKey, hold, hnew, hfree, rfl⟩, h⟩ :=
    step_bind_ok updateIngressIpTracking_ok h
  obtain rfl := modify_ok.mp h
  exact .moved hactive hold hnew hfree

theorem transferValidatorOwnership_effect {newAddress : Address}
    (h : transferValidatorOwnership sender idx newAddress s = .ok u s') : Effect block s s' := by
  obtain ⟨-, v, hactive, h⟩ := ownerOrValidator_ok h
  obtain ⟨_, hfree, h⟩ := guard_bind_ok requireNewAddress_ok h
  rw [modify_bind_ok] at h
  rw [modify_bind_ok] at h
  obtain rfl := modify_ok.mp h
  exact .transferred hactive hfree

theorem transferOwnership_effect {newOwner : Address}
    (h : transferOwnership sender newOwner s = .ok u s') : Effect block s s' := by
  replace h := require_rest h
  replace h := require_rest h
  replace h := require_rest h
  obtain rfl := modify_ok.mp h
  exact .configured _ _ id

theorem setNetworkIdentityRotationEpoch_effect {epoch : ℕ}
    (h : setNetworkIdentityRotationEpoch sender epoch s = .ok u s') : Effect block s s' := by
  unfold setNetworkIdentityRotationEpoch at h
  replace h := require_rest h
  replace h := require_rest h
  obtain rfl := modify_ok.mp h
  exact .configured _ _ id

/-! ## Migration -/

/-- The first call of a migration takes over the owner and the number of validators. -/
def ValidatorConfig.snapshotV1 (s : ValidatorConfig) (v1 : V1) : ValidatorConfig :=
  { s with config := ⟨v1.owner, false, 0, 0, v1.validatorsArray.length % 2 ^ 8⟩ }

variable {config : Config}

omit [Codec] in
theorem requireMigrationOwner_ok {v1 : V1} (h : requireMigrationOwner v1 sender s = .ok config s') :
    s.config.isInit = false ∧ config.owner = sender ∧
      ((s.config.owner ≠ 0 ∧ config = s.config ∧ s' = s) ∨
        (s.config.owner = 0 ∧ v1.validatorsArray.length ≠ 0 ∧
          config = { s.config with
            owner := v1.owner, v1ValidatorCount := v1.validatorsArray.length % 2 ^ 8 } ∧
          s' = s.snapshotV1 v1)) := by
  unfold requireMigrationOwner at h
  obtain ⟨hinit, h⟩ := require_bind_ok.mp h
  split at h
  · rename_i howner
    obtain ⟨hcount, h⟩ := require_bind_ok.mp h
    rw [modify_bind_ok] at h
    obtain ⟨hsender, h⟩ := require_bind_ok.mp h
    obtain ⟨rfl, rfl⟩ := pure_ok.mp h
    exact ⟨hinit, hsender, .inr ⟨howner, hcount, rfl, rfl⟩⟩
  · rename_i howner
    obtain ⟨hsender, h⟩ := require_bind_ok.mp h
    obtain ⟨rfl, rfl⟩ := pure_ok.mp h
    exact ⟨hinit, hsender, .inl ⟨howner, rfl, rfl⟩⟩

omit [Codec] in
theorem requireMigrationOwner_config {v1 : V1}
    (h : requireMigrationOwner v1 sender s = .ok config s') :
    s.config.isInit ≠ true ∧ ∃ config', s' = { s with config := config' } := by
  obtain ⟨hinit, -, ⟨-, -, rfl⟩ | ⟨-, -, -, rfl⟩⟩ := requireMigrationOwner_ok h
  · exact ⟨ne_true_of_eq_false hinit, _, rfl⟩
  · exact ⟨ne_true_of_eq_false hinit, _, rfl⟩

/-- A validator of the old registry is skipped, or it is added as active or as deactivated. -/
theorem migrateEntry_ok {skipped : ℕ} {v1Val : V1Validator}
    (h : migrateEntry ctx skipped v1Val s = .ok u s') :
    s' = { s with config := { s.config with migrationSkippedCount := min (skipped + 1) 255 } } ∨
      (s.pubkeyToIndex v1Val.publicKey = 0 ∧ s.FreeAddress v1Val.validatorAddress ∧
        ∃ egress,
          (v1Val.active = true ∧
            ∃ key, Codec.ingressKey v1Val.inboundAddress = some key ∧
              s.activeIngressIps key = false ∧
              s' = (s.append v1Val.validatorAddress v1Val.publicKey v1Val.inboundAddress egress 0
                ctx.blockNumber 0).setIngressIp key true) ∨
          (v1Val.active = false ∧
            s' = s.append v1Val.validatorAddress v1Val.publicKey v1Val.inboundAddress egress 0
              ctx.blockNumber ctx.blockNumber)) := by
  unfold migrateEntry at h
  split at h
  · exact .inl (modify_ok.mp h)
  cases hegress : Codec.socketIp v1Val.outboundAddress with
  | none =>
    rw [hegress] at h
    exact .inl (modify_ok.mp h)
  | some egress =>
    rw [hegress] at h
    rw [get_bind_ok] at h
    split at h
    · exact .inl (modify_ok.mp h)
    rename_i hpubkey
    obtain ⟨hfree, h⟩ := require_bind_ok.mp h
    obtain ⟨key, hkey, h⟩ := okOr_bind_ok.mp h
    split at h
    · exact .inl (modify_ok.mp h)
    rename_i hingress
    rw [modify_bind_ok] at h
    refine .inr ⟨Decidable.not_not.mp hpubkey, hfree, egress, ?_⟩
    rcases onlyIf_ok.mp h with ⟨hactive, h⟩ | ⟨hinactive, rfl⟩
    · obtain rfl := modify_ok.mp h
      have hunused : s.activeIngressIps key = false :=
        Bool.eq_false_iff.mpr fun hused => hingress ⟨hactive, hused⟩
      rw [if_pos hactive]
      exact .inl ⟨hactive, key, hkey, hunused, rfl⟩
    · rw [if_neg hinactive]
      exact .inr ⟨Bool.eq_false_iff.mpr hinactive, rfl⟩

theorem migrateValidator_effect (h : migrateValidator ctx sender idx s = .ok u s') :
    Effect ctx.blockNumber s s' := by
  obtain ⟨config, t, ⟨hinit, config', rfl⟩, h⟩ := step_bind_ok requireMigrationOwner_config h
  replace h := require_rest h
  obtain ⟨address, -, h⟩ := okOr_bind_ok.mp h
  obtain rfl | ⟨hpubkey, hfree, egress, ⟨-, key, hkey, hunused, rfl⟩ | ⟨-, rfl⟩⟩ :=
    migrateEntry_ok h
  · exact .configured _ _ fun h => absurd h hinit
  · exact .added config' (fun h => absurd h hinit) hpubkey hfree hkey hunused
  · exact .retired config' (fun h => absurd h hinit) hpubkey hfree

theorem initializeIfMigrated_effect (h : initializeIfMigrated ctx sender s = .ok u s') :
    Effect ctx.blockNumber s s' := by
  obtain ⟨config, t, ⟨hinit, config', rfl⟩, h⟩ := step_bind_ok requireMigrationOwner_config h
  replace h := require_rest h
  obtain rfl := modify_ok.mp h
  exact .configured _ _ fun h => absurd h hinit

variable {call : Call}

/-- Every call that succeeds has one of the effects. -/
theorem dispatch_effect (h : dispatch ctx sender call s = .ok u s') :
    Effect ctx.blockNumber s s' := by
  cases call with
  | addValidator call => exact addValidator_effect h
  | deactivateValidator idx =>
    obtain ⟨v, key, hactive, hkey, rfl⟩ := deactivateValidator_ok h
    exact .deactivated hactive hkey
  | rotateValidator call => exact rotateValidator_effect h
  | setFeeRecipient idx feeRecipient => exact setFeeRecipient_effect h
  | setIpAddresses idx ingress egress => exact setIpAddresses_effect h
  | transferValidatorOwnership idx newAddress => exact transferValidatorOwnership_effect h
  | transferOwnership newOwner => exact transferOwnership_effect h
  | setNetworkIdentityRotationEpoch epoch => exact setNetworkIdentityRotationEpoch_effect h
  | migrateValidator idx => exact migrateValidator_effect h
  | initializeIfMigrated => exact initializeIfMigrated_effect h

/-- Every call but three needs a registry that is initialized. -/
theorem dispatch_isInit (h : dispatch ctx sender call s = .ok u s') :
    s.config.isInit = true ∨ (∃ idx, call = .deactivateValidator idx) ∨
      (∃ idx, call = .migrateValidator idx) ∨ call = .initializeIfMigrated := by
  cases call with
  | addValidator | setNetworkIdentityRotationEpoch =>
    exact .inl (require_bind_ok.mp h).1
  | deactivateValidator idx => exact .inr (.inl ⟨idx, rfl⟩)
  | rotateValidator call =>
    obtain ⟨v, hactive, h⟩ := guard_bind_ok getActiveValidator_ok h
    exact .inl (require_bind_ok.mp h).1
  | setFeeRecipient | setIpAddresses | transferValidatorOwnership =>
    exact .inl (ownerOrValidator_ok h).1
  | transferOwnership newOwner =>
    replace h := require_rest h
    exact .inl (require_bind_ok.mp h).1
  | migrateValidator idx => exact .inr (.inr (.inl ⟨idx, rfl⟩))
  | initializeIfMigrated => exact .inr (.inr (.inr rfl))

theorem transact_effect (s : ValidatorConfig) (tx : Tx) :
    s.transact tx = s ∨ Effect tx.ctx.blockNumber s (s.transact tx) := by
  unfold ValidatorConfig.transact
  cases h : dispatch tx.ctx tx.sender tx.call s with
  | ok u s' => exact .inr (dispatch_effect h)
  | error e s' => exact .inl rfl

end Monotempo.Validators
