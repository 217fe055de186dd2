/-
  The life of an access key.

  A row is absent, authorized or revoked, and moves only in that order.  Calls come from
  any sender in any transaction: the transaction key and origin change freely between
  calls.  A transaction signed by a key that is no admin of its origin can spend, and
  changes nothing else.
-/
import Monotempo.Keychain.Calls
import Mathlib.Logic.Relation

set_option autoImplicit false

namespace Monotempo.Keychain

open Chain Foundation

/-! ## The status of a row -/

/-- What a row stands for. -/
inductive KeyStatus where
  | absent
  | authorized
  | revoked
  deriving DecidableEq, Repr

/-- The status of a row: revoked rows keep a flag, others exist if they have an expiry. -/
def AuthorizedKey.status (key : AuthorizedKey) : KeyStatus :=
  if key.isRevoked then .revoked else if key.expiry = 0 then .absent else .authorized

/-- The status of a key. -/
def KeychainState.status (s : KeychainState) (account keyId : Address) : KeyStatus :=
  (s.keys account keyId).status

/-- A move of the lifecycle, or none. -/
inductive KeyStatus.Moves : KeyStatus → KeyStatus → Prop where
  | stay (status : KeyStatus) : Moves status status
  | authorize : Moves .absent .authorized
  | revoke : Moves .authorized .revoked

/-- The place in the lifecycle. -/
def KeyStatus.rank : KeyStatus → ℕ
  | .absent => 0
  | .authorized => 1
  | .revoked => 2

theorem KeyStatus.Moves.rank_le {before after : KeyStatus} (h : Moves before after) :
    before.rank ≤ after.rank := by
  cases h with
  | stay => exact Nat.le_refl _
  | authorize | revoke => decide

/-- What a call may do to a row. -/
inductive RowStep (key : AuthorizedKey) : AuthorizedKey → Prop where
  | keep : RowStep key key
  | authorize {authorized : AuthorizedKey} (absent : key.status = .absent)
      (fresh : authorized.status = .authorized) : RowStep key authorized
  | enforce : RowStep key { key with enforceLimits := true }
  | revoke (present : key.expiry ≠ 0) :
      RowStep key { AuthorizedKey.default with isRevoked := true }

variable {key key' : AuthorizedKey}

theorem RowStep.moves (h : RowStep key key') : KeyStatus.Moves key.status key'.status := by
  cases h with
  | keep => exact .stay _
  | authorize absent fresh =>
    rw [absent, fresh]
    exact .authorize
  | enforce => exact .stay _
  | revoke present =>
    have hstatus : key.status = .revoked ∨ key.status = .authorized := by
      unfold AuthorizedKey.status
      split
      · exact .inl rfl
      · exact .inr rfl
    rcases hstatus with hstatus | hstatus
    · rw [hstatus]
      exact .stay _
    · rw [hstatus]
      exact .revoke

/-- The signature type, the expiry and the admin flag. -/
def AuthorizedKey.identity (key : AuthorizedKey) : StoredSignatureType × ℕ × Bool :=
  (key.signatureType, key.expiry, key.isAdmin)

theorem RowStep.identity (h : RowStep key key') (hbefore : key.status = .authorized)
    (hafter : key'.status = .authorized) : key'.identity = key.identity := by
  cases h with
  | keep => rfl
  | authorize absent _ => exact nomatch hbefore.symm.trans absent
  | enforce => rfl
  | revoke => exact nomatch hafter

/-! ## Calls -/

/-- The calls of the keychain, by users and by the protocol. -/
inductive KeychainCall where
  | authorizeKey (sender keyId : Address) (signatureType : SignatureType)
      (config : KeyRestrictions) (witness : Option B256)
  | authorizeAdminKey (sender keyId : Address) (signatureType : SignatureType)
      (witness : Option B256)
  | burnKeyAuthorizationWitness (sender : Address) (witness : B256)
  | revokeKey (sender keyId : Address)
  | updateSpendingLimit (sender keyId token : Address) (newLimit : ℕ)
  | setAllowedCalls (sender keyId : Address) (scopes : List CallScope)
  | removeAllowedCalls (sender keyId target : Address)
  | authorizeTransfer (account token : Address) (amount : ℕ)
  | authorizeApprove (account token : Address) (oldApproval newApproval : ℕ)
  | refundSpendingLimit (account token : Address) (amount : ℕ)

section Calls

variable [KeyHash]

/-- Run a call. -/
def KeychainCall.run (ctx : Context) : KeychainCall → KeychainM Unit
  | .authorizeKey sender keyId signatureType config witness =>
    Keychain.authorizeKey ctx sender keyId signatureType config witness
  | .authorizeAdminKey sender keyId signatureType witness =>
    Keychain.authorizeAdminKey ctx sender keyId signatureType witness
  | .burnKeyAuthorizationWitness sender witness =>
    Keychain.burnKeyAuthorizationWitness ctx sender witness
  | .revokeKey sender keyId => Keychain.revokeKey ctx sender keyId
  | .updateSpendingLimit sender keyId token newLimit =>
    Keychain.updateSpendingLimit ctx sender keyId token newLimit
  | .setAllowedCalls sender keyId scopes => Keychain.setAllowedCalls ctx sender keyId scopes
  | .removeAllowedCalls sender keyId target =>
    Keychain.removeAllowedCalls ctx sender keyId target
  | .authorizeTransfer account token amount => Keychain.authorizeTransfer ctx account token amount
  | .authorizeApprove account token oldApproval newApproval =>
    Keychain.authorizeApprove ctx account token oldApproval newApproval
  | .refundSpendingLimit account token amount =>
    Keychain.refundSpendingLimit ctx account token amount

/-- One step: a call that succeeds, or a new transaction.  A failed call is reverted. -/
inductive KeychainStep : KeychainState → KeychainState → Prop where
  | call {s s' : KeychainState} (ctx : Context) (call : KeychainCall)
      (fork : ctx.spec.isT6 = true) (ok : call.run ctx s = .ok () s') : KeychainStep s s'
  | transaction {s : KeychainState} (transactionKey txOrigin : Address) :
      KeychainStep s { s with transactionKey := transactionKey, txOrigin := txOrigin }

/-- Any number of steps. -/
abbrev KeychainRun := Relation.ReflTransGen KeychainStep

/-! ## What a call leaves alone -/

variable {ctx : Context} {account keyId token sender : Address} {amount : ℕ}
  {s s' : KeychainState}

/-- Keys, scopes, witnesses and the configuration of limits are the same. -/
structure SameConfiguration (s t : KeychainState) : Prop where
  keys : t.keys = s.keys
  scopes : t.keyScopes = s.keyScopes
  witnesses : t.keyAuthorizationWitnesses = s.keyAuthorizationWitnesses
  max : ∀ limitKey token,
    (t.spendingLimits limitKey token).max = (s.spendingLimits limitKey token).max
  period : ∀ limitKey token,
    (t.spendingLimits limitKey token).period = (s.spendingLimits limitKey token).period

omit [KeyHash] in
theorem SameConfiguration.refl : SameConfiguration s s :=
  ⟨rfl, rfl, rfl, fun _ _ => rfl, fun _ _ => rfl⟩

omit [KeyHash] in
theorem SameConfiguration.setLimit {t : KeychainState} (h : SameConfiguration s t)
    {limitKey : B256} {updated : SpendingLimitState}
    (hmax : updated.max = (s.spendingLimits limitKey token).max)
    (hperiod : updated.period = (s.spendingLimits limitKey token).period) :
    SameConfiguration s (t.setLimit limitKey token updated) := by
  have hrow : ∀ otherKey otherToken,
      (t.setLimit limitKey token updated).spendingLimits otherKey otherToken =
        if otherKey = limitKey ∧ otherToken = token then updated
        else t.spendingLimits otherKey otherToken := by
    intro otherKey otherToken
    unfold KeychainState.setLimit
    by_cases hkey : otherKey = limitKey
    · subst hkey
      by_cases htoken : otherToken = token
      · simp [htoken]
      · simp [htoken]
    · simp [hkey]
  refine ⟨h.keys, h.scopes, h.witnesses, ?_, ?_⟩
  · intro otherKey otherToken
    rw [hrow]
    split
    · rename_i hsame
      rw [hsame.1, hsame.2, hmax]
    · exact h.max otherKey otherToken
  · intro otherKey otherToken
    rw [hrow]
    split
    · rename_i hsame
      rw [hsame.1, hsame.2, hperiod]
    · exact h.period otherKey otherToken

theorem verifyAndUpdateSpending_sameConfiguration :
    Keeps (SameConfiguration s) (verifyAndUpdateSpending ctx account keyId token amount) := by
  refine keeps_onlyIf fun _ => keeps_get_bind fun t ht =>
    keeps_bind (keeps_fromExcept _) fun _ => keeps_onlyIf fun _ =>
    keeps_ite (fun _ => ?_) fun _ => ?_
  · exact keeps_require_bind fun _ => keeps_modify fun _ hs =>
      hs.setLimit (ht.max _ _) (ht.period _ _)
  · refine keeps_okOr_bind fun updated hspend => keeps_modify fun _ hs => ?_
    obtain ⟨hmax, hperiod⟩ := SpendingLimitState.spend_config hspend
    exact hs.setLimit (hmax.trans (ht.max _ _)) (hperiod.trans (ht.period _ _))

theorem authorizeTransfer_sameConfiguration :
    Keeps (SameConfiguration s) (authorizeTransfer ctx account token amount) :=
  keeps_get_bind fun _ _ => keeps_onlyIf fun _ => verifyAndUpdateSpending_sameConfiguration

theorem authorizeApprove_sameConfiguration {oldApproval newApproval : ℕ} :
    Keeps (SameConfiguration s) (authorizeApprove ctx account token oldApproval newApproval) :=
  keeps_get_bind fun _ _ => keeps_onlyIf fun _ => verifyAndUpdateSpending_sameConfiguration

theorem refundSpendingLimit_sameConfiguration :
    Keeps (SameConfiguration s) (refundSpendingLimit ctx account token amount) := by
  refine keeps_get_bind fun t ht => keeps_onlyIf fun _ => ?_
  cases loadActiveKey t account t.transactionKey ctx.now with
  | error e => exact keeps_pure _
  | ok key =>
    refine keeps_onlyIf fun _ => keeps_modify fun _ hs => hs.setLimit ?_ ?_
    · split <;> exact ht.max _ _
    · split <;> exact ht.period _ _

/-! ## What a call does -/

/-- The rows take lifecycle steps, and burned witnesses stay burned. -/
structure CallEffect (s s' : KeychainState) : Prop where
  rows : ∀ account keyId, RowStep (s.keys account keyId) (s'.keys account keyId)
  burned : ∀ account witness, s.keyAuthorizationWitnesses account witness = true →
    s'.keyAuthorizationWitnesses account witness = true

omit [KeyHash] in
theorem CallEffect.of_sameKeys (h : SameKeys s s') : CallEffect s s' := by
  refine ⟨fun account keyId => ?_, fun account witness hburned => ?_⟩
  · rw [h.1]
    exact .keep
  · rw [h.2]
    exact hburned

omit [KeyHash] in
/-- A call that changes one row. -/
theorem CallEffect.of_setKey (hstep : RowStep (s.keys account keyId) key)
    (h : SameKeys (s.setKey account keyId key) s') : CallEffect s s' := by
  refine ⟨fun otherAccount otherKey => ?_, fun account witness hburned => ?_⟩
  · rw [h.1]
    by_cases hsame : otherAccount = account ∧ otherKey = keyId
    · rw [hsame.1, hsame.2, setKey_self]
      exact hstep
    · rw [setKey_other hsame]
      exact .keep
  · rw [h.2]
    exact hburned

theorem authorizeKeyInternal_effect {signatureType : SignatureType} {config : KeyRestrictions}
    {witness : Option B256} {isAdmin : Bool} (hT6 : ctx.spec.isT6 = true)
    (h : authorizeKeyInternal ctx sender keyId signatureType config witness isAdmin s =
      .ok () s') : CallEffect s s' := by
  obtain ⟨-, -, hexpiry, habsent, hrevoked, -, stored, allowedCalls, -, hrest⟩ :=
    authorizeKeyInternal_ok h
  have hfuture := hexpiry (TempoHardfork.isT0_of_isT6 hT6)
  refine CallEffect.of_setKey (.authorize ?_ ?_)
    (Keeps.ok (keeps_onlyIf fun _ => applyRestrictions_sameKeys) ⟨rfl, rfl⟩ hrest)
  · unfold AuthorizedKey.status
    rw [hrevoked, habsent]
    rfl
  · unfold AuthorizedKey.status
    rw [if_neg Bool.false_ne_true, if_neg (Nat.ne_of_gt (Nat.zero_lt_of_lt hfuture))]

omit [KeyHash] in
theorem SameConfiguration.sameKeys (h : SameConfiguration s s') : SameKeys s s' :=
  ⟨h.keys, h.witnesses⟩

/-- Every successful call takes lifecycle steps only. -/
theorem KeychainCall.effect {call : KeychainCall} (hT6 : ctx.spec.isT6 = true)
    (h : call.run ctx s = .ok () s') : CallEffect s s' := by
  cases call with
  | authorizeKey | authorizeAdminKey =>
    exact authorizeKeyInternal_effect hT6 h
  | burnKeyAuthorizationWitness sender witness =>
    obtain ⟨-, rfl⟩ := burnKeyAuthorizationWitness_ok h
    refine ⟨fun _ _ => .keep, fun account other hburned => ?_⟩
    by_cases haccount : account = sender
    · subst haccount
      by_cases hwitness : other = witness
      · simp [hwitness]
      · simp [hwitness, hburned]
    · simp [haccount, hburned]
  | revokeKey sender keyId =>
    obtain ⟨-, hpresent, rfl⟩ := revokeKey_ok h
    exact CallEffect.of_setKey (.revoke hpresent) ⟨rfl, rfl⟩
  | updateSpendingLimit sender keyId token newLimit =>
    obtain ⟨-, -, hsame | hsame⟩ := updateSpendingLimit_ok h
    · exact CallEffect.of_sameKeys hsame
    · exact CallEffect.of_setKey .enforce hsame
  | setAllowedCalls sender keyId scopes =>
    obtain ⟨-, -, row, -, rfl⟩ := setAllowedCalls_ok h
    exact CallEffect.of_sameKeys ⟨rfl, rfl⟩
  | removeAllowedCalls sender keyId target =>
    obtain ⟨-, rfl⟩ := removeAllowedCalls_ok h
    exact CallEffect.of_sameKeys ⟨rfl, rfl⟩
  | authorizeTransfer account token amount =>
    exact CallEffect.of_sameKeys
      (authorizeTransfer_sameConfiguration.ok .refl h).sameKeys
  | authorizeApprove account token oldApproval newApproval =>
    exact CallEffect.of_sameKeys
      (authorizeApprove_sameConfiguration.ok .refl h).sameKeys
  | refundSpendingLimit account token amount =>
    exact CallEffect.of_sameKeys
      (refundSpendingLimit_sameConfiguration.ok .refl h).sameKeys

theorem KeychainStep.effect (h : KeychainStep s s') : CallEffect s s' := by
  cases h with
  | call ctx call fork ok => exact KeychainCall.effect fork ok
  | transaction transactionKey txOrigin => exact CallEffect.of_sameKeys ⟨rfl, rfl⟩

/-! ## Unprivileged transactions -/

/-- The transaction is signed by an access key other than its origin that is no active
admin key of it. -/
structure Unprivileged (s : KeychainState) (now : ℕ) : Prop where
  key : s.transactionKey ≠ 0
  other : s.transactionKey ≠ s.txOrigin
  restricted : ∀ key, loadActiveKey s s.txOrigin s.transactionKey now = .ok key →
    key.isAdmin = false

omit [KeyHash] in
theorem Unprivileged.not_adminCaller (h : Unprivileged s ctx.now) (hT6 : ctx.spec.isT6 = true) :
    ¬ AdminCaller ctx s sender := by
  intro hadmin
  have horigin := hadmin.origin (TempoHardfork.isT2_of_isT6 hT6)
  obtain ⟨-, hkey⟩ := hadmin.signer h.key
  rw [← horigin] at hkey
  unfold isAdminKey at hkey
  rw [if_neg h.other] at hkey
  cases hload : loadActiveKey s s.txOrigin s.transactionKey ctx.now with
  | error e => simp [hload] at hkey
  | ok key => simp [hload, h.restricted key hload] at hkey

/-- Such a transaction changes no configuration, whoever calls. -/
theorem KeychainCall.unprivileged {call : KeychainCall} (hT6 : ctx.spec.isT6 = true)
    (hsigner : Unprivileged s ctx.now) (h : call.run ctx s = .ok () s') :
    SameConfiguration s s' := by
  cases call with
  | authorizeKey | authorizeAdminKey =>
    exact absurd (authorizeKeyInternal_ok h).1 (hsigner.not_adminCaller hT6)
  | burnKeyAuthorizationWitness sender witness =>
    exact absurd (burnKeyAuthorizationWitness_ok h).1 (hsigner.not_adminCaller hT6)
  | revokeKey sender keyId => exact absurd (revokeKey_ok h).1 (hsigner.not_adminCaller hT6)
  | updateSpendingLimit sender keyId token newLimit =>
    exact absurd (updateSpendingLimit_ok h).1 (hsigner.not_adminCaller hT6)
  | setAllowedCalls sender keyId scopes =>
    exact absurd (setAllowedCalls_ok h).1 (hsigner.not_adminCaller hT6)
  | removeAllowedCalls sender keyId target =>
    exact absurd (removeAllowedCalls_ok h).1 (hsigner.not_adminCaller hT6)
  | authorizeTransfer account token amount => exact authorizeTransfer_sameConfiguration.ok .refl h
  | authorizeApprove account token oldApproval newApproval =>
    exact authorizeApprove_sameConfiguration.ok .refl h
  | refundSpendingLimit account token amount =>
    exact refundSpendingLimit_sameConfiguration.ok .refl h

/-! ## Whole runs -/

theorem KeychainRun.rank_le (run : KeychainRun s s') (account keyId : Address) :
    (s.status account keyId).rank ≤ (s'.status account keyId).rank := by
  induction run with
  | refl => exact Nat.le_refl _
  | tail _ step ih => exact Nat.le_trans ih (step.effect.rows account keyId).moves.rank_le

theorem KeychainRun.identity (run : KeychainRun s s')
    (hbefore : s.status account keyId = .authorized)
    (hafter : s'.status account keyId = .authorized) :
    (s'.keys account keyId).identity = (s.keys account keyId).identity := by
  induction run with
  | refl => rfl
  | @tail t u run step ih =>
    -- between the two ends the row can be neither absent nor revoked
    have hmiddle : t.status account keyId = .authorized := by
      have hleft := KeychainRun.rank_le run account keyId
      have hright := (step.effect.rows account keyId).moves.rank_le
      change (t.status account keyId).rank ≤ (u.status account keyId).rank at hright
      rw [hbefore] at hleft
      rw [hafter] at hright
      cases hstatus : t.status account keyId with
      | absent => rw [hstatus] at hleft; exact absurd hleft (by decide)
      | authorized => rfl
      | revoked => rw [hstatus] at hright; exact absurd hright (by decide)
    exact ((step.effect.rows account keyId).identity hmiddle hafter).trans (ih hmiddle)

theorem KeychainRun.burned (run : KeychainRun s s') {witness : B256}
    (h : s.keyAuthorizationWitnesses account witness = true) :
    s'.keyAuthorizationWitnesses account witness = true := by
  induction run with
  | refl => exact h
  | tail _ step ih => exact step.effect.burned account witness ih

/-- A revoked row stays revoked, so that the key never loads. -/
theorem KeychainRun.revoked (run : KeychainRun s s') (h : s.status account keyId = .revoked)
    (now : ℕ) : loadActiveKey s' account keyId now = .error (.keychain .keyAlreadyRevoked) := by
  have hrank := KeychainRun.rank_le run account keyId
  rw [h] at hrank
  have hflag : (s'.keys account keyId).isRevoked = true := by
    by_contra hflag
    have hlow : (s'.status account keyId).rank ≤ 1 := by
      unfold KeychainState.status AuthorizedKey.status
      rw [if_neg hflag]
      split <;> decide
    exact absurd (Nat.le_trans hrank hlow) (by decide)
  unfold loadActiveKey
  simp only [hflag, if_true]

/-- Over every run of calls from any senders in any transactions: rows move from absent to
authorized to revoked, one move at a time; while authorized they keep signature type, expiry
and admin flag; a revoked key never loads again; no key is authorized with a burned witness;
and a transaction signed by an access key that is no admin of its origin changes no key, no
scope, no witness and no configuration of a limit. -/
theorem keychain_lifecycle_one_way (run : KeychainRun s s') :
    (∀ account keyId t, KeychainStep s' t →
      KeyStatus.Moves (s'.status account keyId) (t.status account keyId)) ∧
      (∀ account keyId, (s.status account keyId).rank ≤ (s'.status account keyId).rank) ∧
      (∀ account keyId, s.status account keyId = .authorized →
        s'.status account keyId = .authorized →
        (s'.keys account keyId).identity = (s.keys account keyId).identity) ∧
      (∀ account keyId now, s.status account keyId = .revoked →
        isActiveKey s' account keyId now = false) ∧
      (∀ account witness, s.keyAuthorizationWitnesses account witness = true →
        ∀ ctx keyId signatureType config isAdmin t,
          authorizeKeyInternal ctx account keyId signatureType config (some witness) isAdmin s' ≠
            .ok () t) ∧
      ∀ ctx call t, ctx.spec.isT6 = true → Unprivileged s' ctx.now →
        KeychainCall.run ctx call s' = .ok () t → SameConfiguration s' t := by
  refine ⟨?_, ?_, ?_, ?_, ?_, ?_⟩
  · intro account keyId t step
    exact (step.effect.rows account keyId).moves
  · intro account keyId
    exact KeychainRun.rank_le run account keyId
  · intro account keyId hbefore hafter
    exact KeychainRun.identity run hbefore hafter
  · intro account keyId now hrevoked
    unfold isActiveKey
    rw [KeychainRun.revoked run hrevoked now]
  · intro account witness hburned ctx keyId signatureType config isAdmin t hauthorize
    obtain ⟨-, -, -, -, -, hclear, -⟩ := authorizeKeyInternal_ok hauthorize
    have hstill := KeychainRun.burned run hburned
    exact Bool.false_ne_true ((hclear witness rfl).symm.trans hstill)
  · intro ctx call t hT6 hsigner hcall
    exact KeychainCall.unprivileged hT6 hsigner hcall

end Calls

/-- A key is authorized and revoked.  After that another key is authorized, and the first one
never loads again. -/
theorem keychain_lifecycle_one_way_revoked :
    letI := KeyHash.concat
    ∃ s t, KeychainRun (KeychainState.fresh 1) s ∧ s.status 1 7 = .revoked ∧ KeychainRun s t ∧
      t.status 1 8 = .authorized ∧ ∀ now, isActiveKey t 1 7 now = false := by
  let := KeyHash.concat
  let ctx : Context := ⟨.T6, 10, fun _ => false⟩
  have hreturned : returned ((do
      (KeychainCall.authorizeAdminKey 1 7 .p256 none).run ctx
      (KeychainCall.revokeKey 1 7).run ctx
      (KeychainCall.authorizeAdminKey 1 8 .p256 none).run ctx
      let t ← get
      require (t.status 1 8 = .authorized) (.keychain .keyNotFound) : KeychainM Unit)
      (.fresh 1)) = true := by
    decide +kernel
  obtain ⟨_, _, hrun⟩ := returned_iff.mp hreturned
  obtain ⟨_, r, hfirst, hrun⟩ := bind_ok.mp hrun
  obtain ⟨_, s, hrevoke, hrun⟩ := bind_ok.mp hrun
  obtain ⟨_, t, hsecond, hrun⟩ := bind_ok.mp hrun
  obtain ⟨hauthorized, -⟩ := require_ok.mp hrun
  have hbefore : KeychainRun (KeychainState.fresh 1) s :=
    .tail (.single (.call ctx _ rfl hfirst)) (.call ctx _ rfl hrevoke)
  have hafter : KeychainRun s t := .single (.call ctx _ rfl hsecond)
  have hrevoked : s.status 1 7 = .revoked := by
    obtain ⟨-, -, rfl⟩ := revokeKey_ok hrevoke
    rfl
  exact ⟨s, t, hbefore, hrevoked, hafter, hauthorized, fun now =>
    (keychain_lifecycle_one_way hafter).2.2.2.1 1 7 now hrevoked⟩

end Monotempo.Keychain
