/-
  What the operations of a token do to its funds.

  A dozen operations move balances in their own ways.  Each of them is taken apart once:
  it leaves the funds alone, moves an amount between two accounts, burns it, mints it or
  changes the cap.  Invariants on supply and custody are proved for these five effects.
-/
import Monotempo.Tip20.State

set_option autoImplicit false

namespace Monotempo.Tip20

open Chain Foundation Function

variable {u : Unit} {dest : Recipient} {ctx : Context}
  {token sender recipient holder account : Address} {amount : ℕ} {st st' : TokenState}

/-! ## Rewards leave funds alone -/

/-- The same balances, allowances, supply and cap. -/
structure SameFunds (st st' : TokenState) : Prop where
  balances : st'.balances = st.balances
  allowances : st'.allowances = st.allowances
  totalSupply : st'.totalSupply = st.totalSupply
  supplyCap : st'.supplyCap = st.supplyCap

theorem SameFunds.refl : SameFunds st st := ⟨rfl, rfl, rfl, rfl⟩

theorem SameFunds.setInfo {info : UserRewardInfo} (h : SameFunds st st') :
    SameFunds st (st'.setInfo account info) :=
  ⟨h.balances, h.allowances, h.totalSupply, h.supplyCap⟩

theorem SameFunds.trans {st'' : TokenState} (h : SameFunds st st') (h' : SameFunds st' st'') :
    SameFunds st st'' :=
  ⟨h'.balances.trans h.balances, h'.allowances.trans h.allowances,
    h'.totalSupply.trans h.totalSupply, h'.supplyCap.trans h.supplyCap⟩

theorem settle_sameFunds (h : st.settle holder = some st') : SameFunds st st' := by
  obtain ⟨delta, -, h⟩ := Option.bind_eq_some_iff.mp h
  split at h
  · obtain rfl := Option.some.inj h
    exact .refl
  · split at h
    · obtain rfl := Option.some.inj h
      exact SameFunds.refl.setInfo
    · obtain ⟨reward, -, h⟩ := Option.bind_eq_some_iff.mp h
      split at h
      · obtain ⟨rewardBalance, -, h⟩ := Option.bind_eq_some_iff.mp h
        obtain rfl := Option.some.inj h
        exact SameFunds.refl.setInfo
      · obtain ⟨rewardBalance, -, h⟩ := Option.bind_eq_some_iff.mp h
        obtain rfl := Option.some.inj h
        exact SameFunds.refl.setInfo.setInfo

theorem keeps_updateRewards : Keeps (SameFunds st) (updateRewards ctx holder) := by
  refine keeps_ite (fun _ => keeps_pure _) fun _ => keeps_get_bind fun t ht => ?_
  refine keeps_okOr_bind fun settled hsettle => keeps_bind ?_ fun _ => keeps_pure _
  exact keeps_modify fun _ _ => ht.trans (settle_sameFunds hsettle)

theorem keeps_addOptedIn : Keeps (SameFunds st) (addOptedIn amount) :=
  keeps_get_bind fun _ _ => keeps_bind (keeps_okOr _ _) fun _ =>
    keeps_modify fun _ h => ⟨h.balances, h.allowances, h.totalSupply, h.supplyCap⟩

theorem keeps_subOptedIn : Keeps (SameFunds st) (subOptedIn amount) :=
  keeps_get_bind fun _ _ => keeps_bind (keeps_okOr _ _) fun _ =>
    keeps_modify fun _ h => ⟨h.balances, h.allowances, h.totalSupply, h.supplyCap⟩

theorem keeps_adjustOptedIn {fromDelegate toDelegate : Address} :
    Keeps (SameFunds st) (adjustOptedIn fromDelegate toDelegate amount) :=
  keeps_ite (fun _ => keeps_onlyIf fun _ => keeps_subOptedIn) fun _ =>
    keeps_onlyIf fun _ => keeps_addOptedIn

theorem keeps_handleRewardsOnTransfer :
    Keeps (SameFunds st) (handleRewardsOnTransfer ctx sender recipient amount) :=
  keeps_bind keeps_updateRewards fun _ => keeps_bind keeps_updateRewards fun _ =>
    keeps_adjustOptedIn

theorem keeps_handleRewardsOnMint :
    Keeps (SameFunds st) (handleRewardsOnMint ctx recipient amount) :=
  keeps_bind keeps_updateRewards fun _ => keeps_onlyIf fun _ => keeps_addOptedIn

/-! ## Balances -/

/-- Balances with an amount taken from an account. -/
def debit (balances : Address → ℕ) (account : Address) (amount : ℕ) : Address → ℕ :=
  update balances account (balances account - amount)

/-- Balances with an amount given to an account. -/
def credit (balances : Address → ℕ) (account : Address) (amount : ℕ) : Address → ℕ :=
  update balances account (balances account + amount)

theorem incrementBalance_ok (h : incrementBalance account amount st = .ok u st') :
    st' = st.setBalance account (st.balances account + amount) := by
  obtain ⟨balance, ⟨rfl, -⟩, h⟩ := value_bind_ok checkedAdd256_eq_some.mp h
  exact modify_ok.mp h

theorem decrementBalance_ok (h : decrementBalance token account amount st = .ok u st') :
    amount ≤ st.balances account ∧
      st' = st.setBalance account (st.balances account - amount) := by
  obtain ⟨balance, ⟨henough, rfl⟩, h⟩ := value_bind_ok checkedSub_eq_some.mp h
  exact ⟨henough, modify_ok.mp h⟩

/-- An amount was taken from an account, and the rest is as it was. -/
structure Debited (st st' : TokenState) (sender : Address) (amount : ℕ) : Prop where
  enough : amount ≤ st.balances sender
  balances : st'.balances = debit st.balances sender amount
  allowances : st'.allowances = st.allowances
  totalSupply : st'.totalSupply = st.totalSupply
  supplyCap : st'.supplyCap = st.supplyCap

/-- An amount was moved from one account to another. -/
structure Moved (st st' : TokenState) (sender recipient : Address) (amount : ℕ) : Prop where
  enough : amount ≤ st.balances sender
  balances : st'.balances = credit (debit st.balances sender amount) recipient amount
  allowances : st'.allowances = st.allowances
  totalSupply : st'.totalSupply = st.totalSupply
  supplyCap : st'.supplyCap = st.supplyCap

variable {balance : Option ℕ}

theorem debitSender_ok (hbalance : balance = none ∨ balance = some (st.balances sender))
    (h : debitSender token sender amount balance st = .ok u st') :
    Debited st st' sender amount := by
  rcases hbalance with rfl | rfl
  · obtain ⟨henough, rfl⟩ := decrementBalance_ok h
    exact ⟨henough, rfl, rfl, rfl, rfl⟩
  · obtain ⟨balance, ⟨henough, rfl⟩, h⟩ := value_bind_ok checkedSub_eq_some.mp h
    obtain rfl := modify_ok.mp h
    exact ⟨henough, rfl, rfl, rfl, rfl⟩

theorem senderBalance_ok (h : senderBalance ctx token sender amount st = .ok balance st') :
    st = st' ∧ (balance = none ∨ balance = some (st.balances sender)) := by
  unfold senderBalance at h
  split at h
  · obtain ⟨rfl, rfl⟩ := pure_ok.mp h
    exact ⟨rfl, .inl rfl⟩
  · rw [get_bind_ok, require_bind_ok] at h
    obtain ⟨rfl, rfl⟩ := pure_ok.mp h.2
    exact ⟨rfl, .inr rfl⟩

/-- A transfer debits the sender, and credits the recipient unless it is the zero
address. -/
theorem innerTransfer_ok (h : innerTransfer ctx token sender dest amount st = .ok u st') :
    if dest.target = 0 then Debited st st' sender amount
    else Moved st st' sender dest.target amount := by
  obtain ⟨balance, t₁, ⟨rfl, hread⟩, h⟩ := step_bind_ok senderBalance_ok h
  obtain ⟨_, t₂, hrewards, h⟩ := bind_ok.mp h
  have hsame := keeps_handleRewardsOnTransfer.ok .refl hrewards
  rw [← hsame.balances] at hread
  obtain ⟨_, t₃, hdebit, h⟩ := bind_ok.mp h
  have hdebited := debitSender_ok hread hdebit
  have hfrom : Debited st t₃ sender amount := by
    refine ⟨hsame.balances ▸ hdebited.enough, ?_, hdebited.allowances.trans hsame.allowances,
      hdebited.totalSupply.trans hsame.totalSupply, hdebited.supplyCap.trans hsame.supplyCap⟩
    rw [hdebited.balances, hsame.balances]
  obtain ⟨hcredited, h⟩ | ⟨hzero, rfl⟩ := onlyIf_ok.mp h
  · rw [if_neg hcredited]
    obtain rfl := incrementBalance_ok h
    refine ⟨hfrom.enough, ?_, hfrom.allowances, hfrom.totalSupply, hfrom.supplyCap⟩
    show update t₃.balances dest.target _ = _
    rw [hfrom.balances]
    rfl
  · rw [if_pos (not_not.mp hzero)]
    exact hfrom

/-- An amount was minted. -/
structure Minted (st st' : TokenState) (recipient : Address) (amount : ℕ) : Prop where
  balances : st'.balances = credit st.balances recipient amount
  allowances : st'.allowances = st.allowances
  totalSupply : st'.totalSupply = st.totalSupply + amount
  supplyCap : st'.supplyCap = st.supplyCap
  capped : st.totalSupply + amount ≤ st.supplyCap

theorem innerMint_ok (h : innerMint ctx dest st.totalSupply amount st = .ok u st') :
    Minted st st' dest.target amount := by
  obtain ⟨newSupply, ⟨rfl, -⟩, h⟩ := value_bind_ok checkedAdd256_eq_some.mp h
  rw [get_bind_ok, require_bind_ok] at h
  obtain ⟨hcap, h⟩ := h
  obtain ⟨_, t₂, hrewards, h⟩ := bind_ok.mp h
  have hsame := keeps_handleRewardsOnMint.ok .refl hrewards
  rw [modify_bind_ok] at h
  obtain rfl := incrementBalance_ok h
  refine ⟨?_, hsame.allowances, rfl, hsame.supplyCap, hcap⟩
  rw [hsame.balances]
  rfl

/-- An amount was burned. -/
structure Burned (st st' : TokenState) (sender : Address) (amount : ℕ) : Prop where
  enough : amount ≤ st.balances sender
  balances : st'.balances = debit st.balances sender amount
  allowances : st'.allowances = st.allowances
  totalSupply : st.totalSupply = st'.totalSupply + amount
  supplyCap : st'.supplyCap = st.supplyCap

theorem burn_ok (h : (innerTransfer ctx token sender (.direct 0) amount >>= fun _ =>
      reduceSupply token amount) st = .ok u st') : Burned st st' sender amount := by
  obtain ⟨_, t, htransfer, h⟩ := bind_ok.mp h
  have hdebited : Debited st t sender amount := innerTransfer_ok htransfer
  obtain ⟨newSupply, ⟨hle, rfl⟩, h⟩ := value_bind_ok checkedSub_eq_some.mp h
  obtain rfl := modify_ok.mp h
  refine ⟨hdebited.enough, hdebited.balances, hdebited.allowances, ?_, hdebited.supplyCap⟩
  rw [Nat.sub_add_cancel hle, hdebited.totalSupply]

/-! ## The five effects -/

/-- What an operation does to the funds of a token.  Only accounts that satisfy `payer` are
debited. -/
inductive FundsEffect (payer : Address → Prop) (st st' : TokenState) : Prop where
  | same (same : SameFunds st st')
  | moved (sender recipient : Address) (amount : ℕ) (pays : payer sender)
      (moved : Moved st st' sender recipient amount)
  | burned (sender : Address) (amount : ℕ) (pays : payer sender)
      (burned : Burned st st' sender amount)
  | minted (recipient : Address) (amount : ℕ) (minted : Minted st st' recipient amount)
  | capped (balances : st'.balances = st.balances) (allowances : st'.allowances = st.allowances)
      (totalSupply : st'.totalSupply = st.totalSupply)
      (covers : st.totalSupply ≤ st'.supplyCap ∨ st'.supplyCap = u128Max)
      (bounded : st'.supplyCap ≤ u128Max)

variable {payer : Address → Prop}

theorem FundsEffect.allowances (h : FundsEffect payer st st') : st'.allowances = st.allowances := by
  cases h with
  | same same => exact same.allowances
  | moved _ _ _ _ moved => exact moved.allowances
  | burned _ _ _ burned => exact burned.allowances
  | minted _ _ minted => exact minted.allowances
  | capped _ allowances => exact allowances

/-- Accounts that do not pay keep at least their balance. -/
theorem FundsEffect.le_balance (h : FundsEffect payer st st') (hpayer : ¬ payer account) :
    st.balances account ≤ st'.balances account := by
  have hcredit : ∀ (balances : Address → ℕ) (recipient amount : ℕ),
      balances account ≤ credit balances recipient amount account := by
    intro balances recipient amount
    unfold credit
    by_cases heq : account = recipient
    · simp [heq]
    · simp [heq]
  have hdebit : ∀ (balances : Address → ℕ) (sender amount : ℕ), payer sender →
      debit balances sender amount account = balances account := by
    intro balances sender amount hpays
    have hne : account ≠ sender := fun heq => hpayer (heq ▸ hpays)
    simp [debit, hne]
  cases h with
  | same same => rw [same.balances]
  | moved sender recipient amount pays moved =>
    rw [moved.balances, ← hdebit st.balances sender amount pays]
    exact hcredit _ _ _
  | burned sender amount pays burned => rw [burned.balances, hdebit _ _ _ pays]
  | minted recipient amount minted =>
    rw [minted.balances]
    exact hcredit _ _ _
  | capped balances => rw [balances]

theorem innerTransfer_moved (hdest : dest.target ≠ 0)
    (h : innerTransfer ctx token sender dest amount st = .ok u st') :
    Moved st st' sender dest.target amount := by
  have hmoved := innerTransfer_ok h
  rw [if_neg hdest] at hmoved
  exact hmoved

theorem validate_ok (h : dest.validate = .ok u) :
    dest.target ≠ 0 ∧ isTip20 dest.target = false := by
  unfold Recipient.validate check at h
  split at h
  · rename_i hvalid
    obtain ⟨hzero, htoken⟩ := not_or.mp hvalid
    exact ⟨hzero, by simpa using htoken⟩
  · exact nomatch h

theorem isTip20_ne_zero (h : isTip20 token = true) : token ≠ 0 := by
  rintro rfl
  exact nomatch h

theorem isTip20_ne_guard (h : isTip20 token = true) : token ≠ receivePolicyGuardAddress := by
  rintro rfl
  exact absurd h (by decide)

theorem innerBurn_effect (h : innerBurn ctx token sender amount st = .ok u st') :
    FundsEffect (· = sender) st st' := by
  replace h := fromExcept_rest h
  replace h := fromExcept_rest h
  exact .burned sender amount rfl (burn_ok h)

/-- `burn_blocked` burns from its owner, who is not protected, or from the guard. -/
theorem burnBlocked_ok {owner : Address} {checkProtected : Bool}
    (h : burnBlocked ctx token sender owner amount checkProtected st = .ok u st') :
    ¬ (checkProtected = true ∧ isProtected ctx token owner = true) ∧
      Burned st st' (if checkProtected then owner else receivePolicyGuardAddress) amount := by
  replace h := fromExcept_rest h
  replace h := fromExcept_rest h
  obtain ⟨hprotected, h⟩ := require_bind_ok.mp h
  obtain ⟨_, -, h⟩ := fromExcept_bind_ok.mp h
  replace h := require_rest h
  exact ⟨hprotected, burn_ok h⟩

theorem setSupplyCap_effect {newSupplyCap : ℕ}
    (h : setSupplyCap ctx token sender newSupplyCap st = .ok u st') :
    FundsEffect payer st st' := by
  replace h := fromExcept_rest h
  obtain ⟨hcovers, h⟩ := require_bind_ok.mp h
  obtain ⟨hbounded, h⟩ := require_bind_ok.mp h
  obtain rfl := modify_ok.mp h
  exact .capped rfl rfl rfl (.inl hcovers) hbounded

theorem channelReserveTransfer_effect {receivePolicySender : Address}
    (h : channelReserveTransfer ctx token sender dest amount receivePolicySender st = .ok u st') :
    FundsEffect (· = sender) st st' := by
  replace h := require_rest h
  replace h := fromExcept_rest h
  obtain ⟨_, hvalid, h⟩ := fromExcept_bind_ok.mp h
  replace h := fromExcept_rest h
  replace h := require_rest h
  replace h := fromExcept_rest h
  exact .moved sender dest.target amount rfl (innerTransfer_moved (validate_ok hvalid).1 h)

theorem moved_of_decrement_increment {t u : TokenState} {a b : Unit} (hsame : SameFunds st t)
    (hdebit : decrementBalance token sender amount t = .ok a u)
    (hcredit : incrementBalance recipient amount u = .ok b st') :
    Moved st st' sender recipient amount := by
  obtain ⟨henough, rfl⟩ := decrementBalance_ok hdebit
  obtain rfl := incrementBalance_ok hcredit
  refine ⟨hsame.balances ▸ henough, ?_, hsame.allowances, hsame.totalSupply, hsame.supplyCap⟩
  simp only [TokenState.setBalance, hsame.balances]
  rfl

theorem transferFeePreTx_ok (h : transferFeePreTx ctx token sender amount st = .ok u st') :
    Moved st st' sender tipFeeManagerAddress amount := by
  replace h := fromExcept_rest h
  replace h := fromExcept_rest h
  obtain ⟨delegate, t₁, hrewards, h⟩ := bind_ok.mp h
  have hfirst := keeps_updateRewards.ok .refl hrewards
  obtain ⟨_, t₂, hopted, h⟩ := bind_ok.mp h
  have hsecond := (keeps_onlyIf fun _ => keeps_subOptedIn).ok hfirst hopted
  obtain ⟨_, t₃, hdebit, hcredit⟩ := bind_ok.mp h
  exact moved_of_decrement_increment hsecond hdebit hcredit

theorem transferFeePostTx_ok {dest : Address} {refund : ℕ}
    (h : transferFeePostTx ctx token dest refund st = .ok u st') :
    if refund = 0 then st = st' else Moved st st' tipFeeManagerAddress dest refund := by
  obtain ⟨hrefund, h⟩ | ⟨hzero, rfl⟩ := onlyIf_ok.mp h
  · rw [if_neg hrefund]
    replace h := fromExcept_rest h
    obtain ⟨delegate, t₁, hrewards, h⟩ := bind_ok.mp h
    have hfirst := keeps_updateRewards.ok .refl hrewards
    obtain ⟨_, t₂, hopted, h⟩ := bind_ok.mp h
    have hsecond := (keeps_onlyIf fun _ => keeps_addOptedIn).ok hfirst hopted
    obtain ⟨_, t₃, hdebit, hcredit⟩ := bind_ok.mp h
    exact moved_of_decrement_increment hsecond hdebit hcredit
  · rw [if_pos (not_not.mp hzero)]

theorem transferFeePostTx_effect {dest : Address} {refund : ℕ}
    (h : transferFeePostTx ctx token dest refund st = .ok u st') :
    FundsEffect (· = tipFeeManagerAddress) st st' := by
  have heffect := transferFeePostTx_ok h
  split at heffect
  · rw [← heffect]
    exact .same .refl
  · exact .moved _ dest refund rfl heffect

/-- A distribution pays the token and raises the global rate. -/
theorem distributeReward_ok (h : distributeReward ctx token sender amount st = .ok u st') :
    st = st' ∨ ∃ t, innerTransfer ctx token sender (.direct token) amount st = .ok () t ∧
      st' = { t with globalRewardPerToken :=
        t.globalRewardPerToken + amount * accPrecision / t.optedInSupply } := by
  obtain ⟨-, h⟩ | ⟨-, rfl⟩ := onlyIf_ok.mp h
  · replace h := fromExcept_rest h
    replace h := require_rest h
    replace h := fromExcept_rest h
    replace h := fromExcept_rest h
    obtain ⟨_, t, htransfer, h⟩ := bind_ok.mp h
    replace h := require_rest h
    obtain ⟨scaled, ⟨rfl, -⟩, h⟩ := value_bind_ok checkedMul256_eq_some.mp h
    obtain ⟨newRpt, ⟨rfl, -⟩, h⟩ := value_bind_ok checkedAdd256_eq_some.mp h
    exact .inr ⟨t, htransfer, modify_ok.mp h⟩
  · exact .inl rfl

theorem distributeReward_effect (htoken : token ≠ 0)
    (h : distributeReward ctx token sender amount st = .ok u st') :
    FundsEffect (· = sender) st st' := by
  obtain rfl | ⟨t, htransfer, rfl⟩ := distributeReward_ok h
  · exact .same .refl
  · have hmoved := innerTransfer_moved (show (Recipient.direct token).target ≠ 0 from htoken)
      htransfer
    exact .moved sender token amount rfl
      ⟨hmoved.enough, hmoved.balances, hmoved.allowances, hmoved.totalSupply, hmoved.supplyCap⟩

theorem setRewardRecipient_effect
    (h : setRewardRecipient ctx token sender recipient st = .ok u st') :
    SameFunds st st' := by
  obtain ⟨-, h⟩ | ⟨-, rfl⟩ := onlyIf_ok.mp h
  · replace h := fromExcept_rest h
    replace h := require_rest h
    replace h := fromExcept_rest h
    obtain ⟨delegate, t₁, hrewards, h⟩ := bind_ok.mp h
    have hfirst := keeps_updateRewards.ok .refl hrewards
    rw [get_bind_ok] at h
    obtain ⟨_, t₂, hopted, h⟩ := bind_ok.mp h
    have hsecond := keeps_adjustOptedIn.ok hfirst hopted
    obtain rfl := modify_ok.mp h
    exact hsecond.setInfo
  · exact .refl

theorem claimRewards_effect (h : claimRewards ctx token sender st = .ok u st') :
    FundsEffect (· = token) st st' := by
  replace h := fromExcept_rest h
  replace h := fromExcept_rest h
  obtain ⟨delegate, t, hrewards, h⟩ := bind_ok.mp h
  have hfirst := keeps_updateRewards.ok .refl hrewards
  rw [get_bind_ok] at h
  obtain ⟨-, h⟩ | ⟨-, rfl⟩ := onlyIf_ok.mp h
  · have h := modify_bind_ok.mp h
    obtain ⟨balance, ⟨rfl, -⟩, h⟩ := value_bind_ok checkedAdd256_eq_some.mp h
    have hlast := (keeps_onlyIf fun _ => keeps_addOptedIn).ok .refl h
    have henough : min (t.userRewardInfo sender).rewardBalance (t.balances token) ≤
        st.balances token := by
      rw [← hfirst.balances]
      exact Nat.min_le_right _ _
    refine .moved token sender _ rfl ⟨henough, ?_, hlast.allowances.trans hfirst.allowances,
      hlast.totalSupply.trans hfirst.totalSupply, hlast.supplyCap.trans hfirst.supplyCap⟩
    rw [hlast.balances]
    simp only [TokenState.setBalance, TokenState.setInfo, hfirst.balances]
    rfl
  · exact .same hfirst.setInfo

/-- Released funds are paid by the guard to the resolved destination. -/
theorem releaseBlockedFunds_ok {originator receiver dest authority : Address} {mode : RecoveryMode}
    (h : releaseBlockedFunds ctx token originator receiver dest amount mode authority st =
      .ok u st') :
    ∃ destination, Recipient.resolve ctx dest = .ok destination ∧
      Moved st st' receivePolicyGuardAddress destination.target amount := by
  replace h := fromExcept_rest h
  obtain ⟨destination, hresolved, h⟩ := fromExcept_bind_ok.mp h
  obtain ⟨_, hvalid, h⟩ := fromExcept_bind_ok.mp h
  replace h := fromExcept_rest h
  exact ⟨destination, hresolved, innerTransfer_moved (validate_ok hvalid).1 h⟩

/-! ## The balance of one account -/

/-- What a move does to an account that does not pay for it. -/
theorem Moved.balanceOf (h : Moved st st' sender recipient amount)
    (hpays : amount = 0 ∨ account ≠ sender) :
    st'.balances account = st.balances account + if account = recipient then amount else 0 := by
  have hdebit : debit st.balances sender amount account = st.balances account := by
    rcases hpays with rfl | hne
    · simp [debit]
    · simp [debit, hne]
  rw [h.balances, ← hdebit]
  by_cases heq : account = recipient
  · simp [credit, heq]
  · simp [credit, heq]

theorem Minted.balanceOf (h : Minted st st' recipient amount) :
    st'.balances account = st.balances account + if account = recipient then amount else 0 := by
  rw [h.balances]
  by_cases heq : account = recipient
  · simp [credit, heq]
  · simp [credit, heq]

/-! ## Allowances -/

/-- Only the allowances of the owner have grown. -/
structure AllowanceEffect (owner : Address → Prop) (st st' : TokenState) : Prop where
  balances : st'.balances = st.balances
  totalSupply : st'.totalSupply = st.totalSupply
  supplyCap : st'.supplyCap = st.supplyCap
  allowances : ∀ account, ¬ owner account →
    ∀ spender, st'.allowances account spender ≤ st.allowances account spender

variable {owner spender : Address}

theorem setAllowance_effect (h : setAllowance owner spender amount st = .ok u st') :
    AllowanceEffect (· = owner) st st' := by
  obtain rfl := modify_ok.mp h
  refine ⟨rfl, rfl, rfl, fun account hother other => ?_⟩
  simp [update_of_ne hother]

/-- A spend from an account without allowances is of nothing. -/
theorem spend_ok {payer : Option Address} (h : spend ctx token sender amount payer st = .ok u st') :
    AllowanceEffect (fun _ => False) st st' ∧
      ∀ spender, payer = some spender → amount ≤ st.allowances sender spender := by
  cases payer with
  | none =>
    obtain ⟨-, rfl⟩ := fromExcept_ok.mp h
    exact ⟨⟨rfl, rfl, rfl, fun _ _ _ => Nat.le_refl _⟩, fun _ hnone => nomatch hnone⟩
  | some spender =>
    unfold spend consumeAllowance at h
    rw [get_bind_ok, require_bind_ok] at h
    obtain ⟨henough, h⟩ := h
    refine ⟨?_, ?_⟩
    · obtain ⟨-, h⟩ | ⟨-, rfl⟩ := onlyIf_ok.mp h
      · obtain rfl := modify_ok.mp h
        refine ⟨rfl, rfl, rfl, fun account _ other => ?_⟩
        by_cases howner : account = sender
        · subst howner
          by_cases hspender : other = spender
          · subst hspender
            simp
          · simp [hspender]
        · simp [howner]
      · exact ⟨rfl, rfl, rfl, fun _ _ _ => Nat.le_refl _⟩
    · rintro _ ⟨⟩
      exact henough

end Monotempo.Tip20
