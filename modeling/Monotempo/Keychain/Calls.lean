/-
  What a successful keychain call did.

  Each call is taken apart once: the checks it passed and the rows it wrote.  The
  modules on limits, scopes and the lifecycle of keys start from these facts.
-/
import Monotempo.Keychain.State

set_option autoImplicit false

namespace Monotempo.Keychain

open Chain Foundation

variable {key : AuthorizedKey} {u : Unit} {P : KeychainState → Prop} {ctx : Context}
  {account keyId token sender target : Address} {now : ℕ} {s s' : KeychainState}

/-! ## Rows -/

@[simp] theorem setKey_self :
    (s.setKey account keyId key).keys account keyId = key := by
  simp [KeychainState.setKey]

theorem setKey_other {otherAccount otherKey : Address}
    (h : ¬ (otherAccount = account ∧ otherKey = keyId)) :
    (s.setKey account keyId key).keys otherAccount otherKey = s.keys otherAccount otherKey := by
  unfold KeychainState.setKey
  by_cases haccount : otherAccount = account
  · subst haccount
    have hkey : otherKey ≠ keyId := fun hkey => h ⟨rfl, hkey⟩
    simp [hkey]
  · simp [haccount]

namespace SpendingLimitState

variable {spec : TempoHardfork} {limit updated : SpendingLimitState} {amount : ℕ}

theorem rolled_max : (limit.rolled now).max = limit.max := by
  unfold rolled
  split <;> rfl

theorem rolled_period : (limit.rolled now).period = limit.period := by
  unfold rolled
  split <;> rfl

theorem spend_config (h : limit.spend spec now amount = some updated) :
    updated.max = limit.max ∧ updated.period = limit.period := by
  unfold spend at h
  generalize (if limit.rollsOver now then limit.max else limit.decoded spec) = remaining at h
  simp only at h
  split at h
  · exact nomatch h
  · obtain rfl := Option.some.inj h
    exact ⟨rolled_max, rolled_period⟩

end SpendingLimitState

/-! ## Checks -/

theorem loadActiveKey_ok (h : loadActiveKey s account keyId now = .ok key) :
    key = s.keys account keyId ∧ key.isRevoked = false ∧ now < key.expiry := by
  unfold loadActiveKey at h
  simp only at h
  split_ifs at h with hrevoked habsent hexpired
  obtain rfl := Except.ok.inj h
  exact ⟨rfl, by simpa using hrevoked, Nat.lt_of_not_le hexpired⟩

theorem isActiveKey_iff :
    isActiveKey s account keyId now = true ↔
      ¬ ((s.keys account keyId).expiry = 0 ∨ (s.keys account keyId).isRevoked = true ∨
        (s.keys account keyId).expiry ≤ now) := by
  unfold isActiveKey loadActiveKey
  simp only
  split_ifs <;> simp_all

theorem t3SpendingLimitCap_ok {limit max : ℕ} (h : t3SpendingLimitCap limit = .ok max) :
    max = limit := by
  unfold t3SpendingLimitCap at h
  split at h
  · exact nomatch h
  · exact (Except.ok.inj h).symm

/-- The caller may administer the keys of the account. -/
structure AdminCaller (ctx : Context) (s : KeychainState) (sender : Address) : Prop where
  signer : s.transactionKey ≠ 0 →
    ctx.spec.isT6 = true ∧ isAdminKey s sender s.transactionKey ctx.now = true
  origin : ctx.spec.isT2 = true → s.txOrigin = sender

theorem ensureAdminCaller_ok (h : ensureAdminCaller ctx sender s = .ok u s') :
    s = s' ∧ AdminCaller ctx s sender := by
  unfold ensureAdminCaller at h
  rw [get_bind_ok, require_bind_ok, require_ok] at h
  obtain ⟨hsigner, horigin, rfl⟩ := h
  refine ⟨rfl, ?_, ?_⟩
  · intro hkey
    by_contra hcontra
    refine hsigner ⟨hkey, ?_⟩
    simp only [Bool.or_eq_true, Bool.not_eq_true']
    by_cases hT6 : ctx.spec.isT6 = true
    · exact .inr (by simpa using fun hadmin => hcontra ⟨hT6, hadmin⟩)
    · exact .inl (by simpa using hT6)
  · intro hT2
    by_contra hother
    exact horigin ⟨hT2, .inr hother⟩

theorem keeps_ensureAdminCaller :
    Keeps P (ensureAdminCaller ctx sender) :=
  keeps_get_bind fun _ _ => keeps_require_bind fun _ => keeps_require _

theorem keeps_loadRestrictedKey :
    Keeps P (loadRestrictedKey ctx sender keyId) :=
  keeps_get_bind fun _ _ => keeps_bind (keeps_fromExcept _) fun _ =>
    keeps_require_bind fun _ => keeps_pure _

theorem loadRestrictedKey_ok (h : loadRestrictedKey ctx sender keyId s = .ok key s') :
    s = s' ∧ loadActiveKey s sender keyId ctx.now = .ok key ∧ key.isAdmin = false := by
  unfold loadRestrictedKey at h
  rw [get_bind_ok] at h
  obtain ⟨loaded, hactive, h⟩ := fromExcept_bind_ok.mp h
  obtain ⟨hadmin, h⟩ := require_bind_ok.mp h
  obtain ⟨rfl, rfl⟩ := pure_ok.mp h
  exact ⟨rfl, hactive, hadmin⟩

theorem ensureWitnessNotBurned_ok {witness : B256}
    (h : ensureWitnessNotBurned account witness s = .ok u s') :
    s = s' ∧ s.keyAuthorizationWitnesses account witness = false := by
  unfold ensureWitnessNotBurned at h
  rw [get_bind_ok, require_ok] at h
  exact h.symm

variable {witness : Option B256}

theorem checkWitness_ok (h : checkWitness account witness s = .ok u s') :
    s = s' ∧
      ∀ burned, witness = some burned → s.keyAuthorizationWitnesses account burned = false := by
  cases witness with
  | none =>
    obtain ⟨-, rfl⟩ := pure_ok.mp h
    exact ⟨rfl, fun _ hnone => nomatch hnone⟩
  | some burned =>
    obtain ⟨rfl, hclear⟩ := ensureWitnessNotBurned_ok h
    refine ⟨rfl, ?_⟩
    rintro _ ⟨⟩
    exact hclear

/-! ## Calls -/

variable [KeyHash]

/-- The keys and the burned witnesses are these. -/
def SameKeys (s t : KeychainState) : Prop :=
  t.keys = s.keys ∧ t.keyAuthorizationWitnesses = s.keyAuthorizationWitnesses

variable {limits : List TokenLimit}

omit [KeyHash] in
theorem keeps_writeLimits {limitKey : B256}
    (h : ∀ s token limit, P s → P (s.setLimit limitKey token limit)) :
    Keeps P (writeLimits ctx limitKey limits) := by
  induction limits with
  | nil => exact keeps_pure _
  | cons limit rest ih =>
    refine keeps_bind (keeps_ite (fun _ => ?_) fun _ => ?_) fun _ => ih
    · exact keeps_bind (keeps_fromExcept _) fun _ => keeps_modify fun _ hs => h _ _ _ hs
    · exact keeps_modify fun _ hs => h _ _ _ hs

/-- What a successful authorization passed, and the row it wrote. -/
theorem authorizeKeyInternal_ok {signatureType : SignatureType} {config : KeyRestrictions}
    {isAdmin : Bool}
    (h : authorizeKeyInternal ctx sender keyId signatureType config witness isAdmin s =
      .ok () s') :
    AdminCaller ctx s sender ∧ keyId ≠ 0 ∧ (ctx.spec.isT0 = true → ctx.now < config.expiry) ∧
      (s.keys sender keyId).expiry = 0 ∧ (s.keys sender keyId).isRevoked = false ∧
      (∀ burned, witness = some burned → s.keyAuthorizationWitnesses sender burned = false) ∧
      ∃ stored allowedCalls, allowedCallConfigs ctx config = .ok allowedCalls ∧
        onlyIf (isAdmin = false) (applyKeyAuthorizationRestrictions ctx sender keyId
          (if config.enforceLimits then config.limits else []) allowedCalls)
          (s.setKey sender keyId ⟨stored, config.expiry, config.enforceLimits, false, isAdmin⟩) =
          .ok () s' := by
  obtain ⟨_, t, ⟨rfl, hadmin⟩, h⟩ := step_bind_ok ensureAdminCaller_ok h
  obtain ⟨hzero, h⟩ := require_bind_ok.mp h
  replace h := require_rest h
  obtain ⟨hexpiry, h⟩ := require_bind_ok.mp h
  obtain ⟨habsent, h⟩ := require_bind_ok.mp h
  obtain ⟨hrevoked, h⟩ := require_bind_ok.mp h
  obtain ⟨stored, -, h⟩ := fromExcept_bind_ok.mp h
  obtain ⟨allowedCalls, hallowed, h⟩ := fromExcept_bind_ok.mp h
  obtain ⟨_, t, ⟨rfl, hburned⟩, h⟩ := step_bind_ok checkWitness_ok h
  rw [modify_bind_ok] at h
  exact ⟨hadmin, hzero, hexpiry, habsent, hrevoked, hburned, stored, allowedCalls, hallowed, h⟩

theorem applyRestrictions_sameKeys {allowedCalls : Option (List CallScope)} :
    Keeps (SameKeys s) (applyKeyAuthorizationRestrictions ctx account keyId limits allowedCalls) :=
  keeps_bind (keeps_writeLimits fun _ _ _ hs => hs) fun _ => keeps_onlyIf fun _ =>
    keeps_get_bind fun _ _ => keeps_bind (keeps_fromExcept _) fun _ => keeps_modify fun _ hs => hs

omit [KeyHash] in
theorem burnKeyAuthorizationWitness_ok {witness : B256}
    (h : burnKeyAuthorizationWitness ctx sender witness s = .ok () s') :
    AdminCaller ctx s sender ∧
      s' = { s with
        keyAuthorizationWitnesses := Function.update s.keyAuthorizationWitnesses sender
          (Function.update (s.keyAuthorizationWitnesses sender) witness true) } := by
  obtain ⟨_, t, ⟨rfl, hadmin⟩, h⟩ := step_bind_ok ensureAdminCaller_ok h
  obtain ⟨_, t, ⟨rfl, -⟩, h⟩ := step_bind_ok ensureWitnessNotBurned_ok h
  exact ⟨hadmin, modify_ok.mp h⟩

omit [KeyHash] in
theorem revokeKey_ok (h : revokeKey ctx sender keyId s = .ok () s') :
    AdminCaller ctx s sender ∧ (s.keys sender keyId).expiry ≠ 0 ∧
      s' = s.setKey sender keyId { AuthorizedKey.default with isRevoked := true } := by
  obtain ⟨_, t, ⟨rfl, hadmin⟩, h⟩ := step_bind_ok ensureAdminCaller_ok h
  rw [get_bind_ok, require_bind_ok] at h
  obtain ⟨hexists, h⟩ := h
  exact ⟨hadmin, hexists, modify_ok.mp h⟩

/-- An update enforces the limits of the key, and changes no other key. -/
theorem updateSpendingLimit_ok {newLimit : ℕ}
    (h : updateSpendingLimit ctx sender keyId token newLimit s = .ok () s') :
    AdminCaller ctx s sender ∧ (s.keys sender keyId).isRevoked = false ∧
      (SameKeys s s' ∨
        SameKeys (s.setKey sender keyId { s.keys sender keyId with enforceLimits := true })
          s') := by
  obtain ⟨_, t, ⟨rfl, hadmin⟩, h⟩ := step_bind_ok ensureAdminCaller_ok h
  obtain ⟨key, t, ⟨rfl, hactive, -⟩, h⟩ := step_bind_ok loadRestrictedKey_ok h
  obtain ⟨rfl, hrevoked, -⟩ := loadActiveKey_ok hactive
  obtain ⟨_, t, henforce, h⟩ := bind_ok.mp h
  have hrest : SameKeys t s' := by
    refine @Keeps.ok _ _ _ (SameKeys t) _ ?_ _ _ _ ⟨rfl, rfl⟩ h
    refine keeps_get_bind fun _ _ => keeps_ite (fun _ => ?_) fun _ => ?_
    · exact keeps_bind (keeps_fromExcept _) fun _ => keeps_modify fun _ hs => hs
    · exact keeps_modify fun _ hs => hs
  refine ⟨hadmin, hrevoked, ?_⟩
  obtain ⟨-, henforce⟩ | ⟨-, rfl⟩ := onlyIf_ok.mp henforce
  · obtain rfl := modify_ok.mp henforce
    exact .inr hrest
  · exact .inl hrest

/-- New scopes are checked and then stored. -/
theorem setAllowedCalls_ok {scopes : List CallScope}
    (h : setAllowedCalls ctx sender keyId scopes s = .ok () s') :
    AdminCaller ctx s sender ∧ validateCallScopes ctx scopes = .ok () ∧
      ∃ row, KeyScope.upsertAll ctx scopes (s.keyScopes (spendingLimitKey sender keyId)) =
        .ok row ∧
        s' = s.setScope (spendingLimitKey sender keyId) { row with isScoped := true } := by
  replace h := require_rest h
  obtain ⟨_, t, ⟨rfl, hadmin⟩, h⟩ := step_bind_ok ensureAdminCaller_ok h
  obtain ⟨key, t, ⟨rfl, -⟩, h⟩ := step_bind_ok loadRestrictedKey_ok h
  replace h := require_rest h
  obtain ⟨_, hvalid, h⟩ := fromExcept_bind_ok.mp h
  rw [get_bind_ok] at h
  obtain ⟨row, hrow, h⟩ := fromExcept_bind_ok.mp h
  exact ⟨hadmin, hvalid, row, hrow, modify_ok.mp h⟩

theorem removeAllowedCalls_ok (h : removeAllowedCalls ctx sender keyId target s = .ok () s') :
    AdminCaller ctx s sender ∧
      s' = s.setScope (spendingLimitKey sender keyId)
        (if (s.keyScopes (spendingLimitKey sender keyId)).isScoped then
          (s.keyScopes (spendingLimitKey sender keyId)).removeTarget target
        else s.keyScopes (spendingLimitKey sender keyId)) := by
  obtain ⟨_, t, ⟨rfl, hadmin⟩, h⟩ := step_bind_ok ensureAdminCaller_ok h
  obtain ⟨key, t, ⟨rfl, -⟩, h⟩ := step_bind_ok loadRestrictedKey_ok h
  obtain ⟨hscoped, h⟩ | ⟨hscoped, rfl⟩ := onlyIf_ok.mp h
  · rw [if_pos hscoped]
    exact ⟨hadmin, modify_ok.mp h⟩
  · rw [if_neg hscoped]
    refine ⟨hadmin, ?_⟩
    simp [KeychainState.setScope]

end Monotempo.Keychain
