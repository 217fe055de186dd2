/-
  Rewards are covered until they are claimed.

  Rewards accrue lazily: a holder is settled before its balance changes, and what it has
  earned goes to its delegate, rounded down.  Counted in units of `1 / ACC_PRECISION`, what
  the token owes is covered by what it has; settling a holder owes no more than before.
-/
import Monotempo.Tip20.Calls

set_option autoImplicit false

namespace Monotempo.Tip20

open Chain Foundation Function

variable {u : Unit} {other token sender recipient holder account : Address}
  {info : Address → UserRewardInfo} {balances : Address → ℕ} {total n amount held : ℕ}
  {ctx : Context} {st st' t : TokenState}

/-! ## What is owed -/

/-- The balances of the holders that have a delegate. -/
def optedBalances (info : Address → UserRewardInfo) (balances : Address → ℕ) :
    Address → ℕ :=
  fun holder => if (info holder).rewardRecipient ≠ 0 then balances holder else 0

/-- What a token owes to a holder, in units of `1 / ACC_PRECISION`: stored rewards, and what
accrued since the last update. -/
def TokenState.owed (st : TokenState) (holder : Address) : ℕ :=
  accPrecision * (st.userRewardInfo holder).rewardBalance +
    if (st.userRewardInfo holder).rewardRecipient ≠ 0 then
      st.balances holder * (st.globalRewardPerToken - (st.userRewardInfo holder).rewardPerToken)
    else 0

/-- The rewards of a token are in order, and `held` tokens cover them.  The token itself, the
fee manager and the zero address have no delegate: their balances change without a
settlement. -/
structure Rewards (token : Address) (held : ℕ) (st : TokenState) : Prop where
  opted : Totals (optedBalances st.userRewardInfo st.balances) st.optedInSupply
  current : ∀ holder,
    (st.userRewardInfo holder).rewardPerToken ≤ st.globalRewardPerToken
  tokenOut : (st.userRewardInfo token).rewardRecipient = 0
  managerOut : (st.userRewardInfo tipFeeManagerAddress).rewardRecipient = 0
  zeroOut : (st.userRewardInfo 0).rewardRecipient = 0
  covered : Backed st.owed (accPrecision * held : ℕ)

theorem Rewards.mono {held' : ℕ} (h : Rewards token held st) (hle : held ≤ held') :
    Rewards token held' st :=
  { h with covered := h.covered.mono (Int.ofNat_le.mpr (Nat.mul_le_mul_left _ hle)) }

theorem Rewards.empty : Rewards token 0 .empty where
  opted := by
    have hzero : optedBalances TokenState.empty.userRewardInfo TokenState.empty.balances =
        fun _ => 0 := by
      funext holder
      simp [optedBalances, TokenState.empty]
    exact totals_zero
  current _ := Nat.le_refl _
  tokenOut := rfl
  managerOut := rfl
  zeroOut := rfl
  covered := Backed.of_le (backed_zero (Int.natCast_nonneg _)) fun _ => by
    simp [TokenState.owed, TokenState.empty]

/-! ## Settlements -/

/-- A holder was settled: it is up to date, and so is everyone who was. -/
structure Settled (st st' : TokenState) (holder : Address) : Prop where
  balances : st'.balances = st.balances
  recipients : ∀ account, (st'.userRewardInfo account).rewardRecipient =
    (st.userRewardInfo account).rewardRecipient
  upToDate : ∀ account,
    account = holder ∨
      (st.userRewardInfo account).rewardPerToken = st.globalRewardPerToken →
    (st'.userRewardInfo account).rewardPerToken = st'.globalRewardPerToken

/-- Accruals are rounded down. -/
theorem accrued_le {delta reward : ℕ} (h : st.accrued holder delta = some reward) :
    accPrecision * reward ≤ st.balances holder * delta := by
  obtain ⟨product, hmul, rfl⟩ := Option.map_eq_some_iff.mp h
  obtain ⟨rfl, -⟩ := checkedMul256_eq_some.mp hmul
  exact Nat.mul_div_le _ _

theorem setInfo_rewardRecipient {info : UserRewardInfo}
    (h : info.rewardRecipient = (st.userRewardInfo holder).rewardRecipient) (account : Address) :
    ((st.setInfo holder info).userRewardInfo account).rewardRecipient =
      (st.userRewardInfo account).rewardRecipient := by
  by_cases heq : account = holder
  · subst heq
    simp [TokenState.setInfo, h]
  · simp [TokenState.setInfo, heq]

/-- The row of a holder is replaced, and the holder keeps its delegate. -/
theorem Rewards.setInfo {info : UserRewardInfo} (h : Rewards token held st)
    (hrecipient : info.rewardRecipient = (st.userRewardInfo holder).rewardRecipient)
    (hcurrent : info.rewardPerToken ≤ st.globalRewardPerToken)
    (hcovered : Backed (st.setInfo holder info).owed (accPrecision * held : ℕ)) :
    Rewards token held (st.setInfo holder info) := by
  have hrecipients := setInfo_rewardRecipient hrecipient
  refine ⟨?_, ?_, ?_, ?_, ?_, hcovered⟩
  · have hsame : optedBalances (st.setInfo holder info).userRewardInfo st.balances =
        optedBalances st.userRewardInfo st.balances := by
      funext account
      simp [optedBalances, hrecipients]
    show Totals (optedBalances (st.setInfo holder info).userRewardInfo st.balances) _
    rw [hsame]
    exact h.opted
  · intro account
    by_cases heq : account = holder
    · simpa [TokenState.setInfo, heq] using hcurrent
    · simpa [TokenState.setInfo, heq] using h.current account
  · rw [hrecipients]
    exact h.tokenOut
  · rw [hrecipients]
    exact h.managerOut
  · rw [hrecipients]
    exact h.zeroOut

/-- The row of a holder is brought up to date. -/
theorem settled_setInfo {info : UserRewardInfo}
    (hrecipient : info.rewardRecipient = (st.userRewardInfo holder).rewardRecipient)
    (hcurrent : info.rewardPerToken = st.globalRewardPerToken) :
    Settled st (st.setInfo holder info) holder := by
  refine ⟨rfl, setInfo_rewardRecipient hrecipient, fun account hupToDate => ?_⟩
  show _ = st.globalRewardPerToken
  by_cases heq : account = holder
  · simpa [TokenState.setInfo, heq] using hcurrent
  · simpa [TokenState.setInfo, heq] using hupToDate.resolve_left heq

theorem Settled.setInfo {info : UserRewardInfo} (h : Settled st st' holder)
    (hrecipient : info.rewardRecipient = (st'.userRewardInfo account).rewardRecipient)
    (hcurrent : info.rewardPerToken = (st'.userRewardInfo account).rewardPerToken) :
    Settled st (st'.setInfo account info) holder := by
  refine ⟨h.balances, fun other => ?_, fun other hupToDate => ?_⟩
  · rw [setInfo_rewardRecipient hrecipient, h.recipients other]
  · have hbefore := h.upToDate other hupToDate
    by_cases heq : other = account
    · subst heq
      simpa [TokenState.setInfo, hcurrent] using hbefore
    · simpa [TokenState.setInfo, heq] using hbefore

/-- Settling a holder with another delegate: the reward is stored in the row of the
delegate. -/
theorem Rewards.settleDelegate {delegate reward : ℕ} (h : Rewards token held st)
    (hin : (st.userRewardInfo holder).rewardRecipient ≠ 0) (hne : delegate ≠ holder)
    (hround : accPrecision * reward ≤ st.balances holder *
      (st.globalRewardPerToken - (st.userRewardInfo holder).rewardPerToken)) :
    Rewards token held ((st.setInfo holder { st.userRewardInfo holder with
        rewardPerToken := st.globalRewardPerToken }).setInfo delegate
      { st.userRewardInfo delegate with
        rewardBalance := (st.userRewardInfo delegate).rewardBalance + reward }) := by
  set updated : TokenState := st.setInfo holder { st.userRewardInfo holder with
    rewardPerToken := st.globalRewardPerToken } with hupdated
  have hrow : updated.userRewardInfo delegate = st.userRewardInfo delegate := by
    simp [hupdated, TokenState.setInfo, hne]
  -- the holder is owed its stored rewards only, so its accrual is free for the delegate
  have hfirst : Backed (update st.owed holder
      (accPrecision * (st.userRewardInfo holder).rewardBalance))
      ((accPrecision * held : ℕ) - (accPrecision * reward : ℕ)) := by
    refine h.covered.update holder ?_
    rw [TokenState.owed, if_pos hin]
    omega
  have hbefore : Rewards token held updated := by
    refine h.setInfo rfl (Nat.le_refl _) (h.covered.of_le fun account => ?_)
    by_cases heq : account = holder
    · subst heq
      simp [TokenState.owed, TokenState.setInfo]
    · simp [TokenState.owed, TokenState.setInfo, heq]
  refine hbefore.setInfo (by rw [hrow]) (h.current delegate) (hfirst.change delegate ?_ ?_)
  · intro account hother
    by_cases heq : account = holder
    · subst heq
      simp [TokenState.owed, TokenState.setInfo, hupdated, hother]
    · simp [TokenState.owed, TokenState.setInfo, hupdated, hother, heq]
  · rw [update_of_ne hne]
    simp only [TokenState.owed, TokenState.setInfo, hupdated, update_self, Nat.mul_add,
      Nat.cast_add]
    omega

theorem Rewards.settle (h : Rewards token held st) (hsettle : st.settle holder = some st') :
    Rewards token held st' ∧ Settled st st' holder := by
  obtain ⟨delta, hdelta, hsettle⟩ := Option.bind_eq_some_iff.mp hsettle
  obtain ⟨hle, rfl⟩ := checkedSub_eq_some.mp hdelta
  split at hsettle
  · obtain rfl := Option.some.inj hsettle
    have hcurrent : (st.userRewardInfo holder).rewardPerToken = st.globalRewardPerToken := by
      omega
    refine ⟨h, rfl, fun _ => rfl, ?_⟩
    rintro account (rfl | hupToDate)
    · exact hcurrent
    · exact hupToDate
  · split at hsettle
    · rename_i hout
      obtain rfl := Option.some.inj hsettle
      refine ⟨h.setInfo rfl (Nat.le_refl _) (h.covered.of_le fun account => ?_),
        settled_setInfo rfl rfl⟩
      by_cases heq : account = holder
      · subst heq
        simp [TokenState.owed, TokenState.setInfo, hout]
      · simp [TokenState.owed, TokenState.setInfo, heq]
    · rename_i hin
      obtain ⟨reward, hreward, hsettle⟩ := Option.bind_eq_some_iff.mp hsettle
      have hround := accrued_le hreward
      split at hsettle
      · obtain ⟨rewardBalance, hadd, hsettle⟩ := Option.bind_eq_some_iff.mp hsettle
        obtain ⟨rfl, -⟩ := checkedAdd256_eq_some.mp hadd
        obtain rfl := Option.some.inj hsettle
        -- the holder is its own delegate: the accrual becomes a stored reward
        refine ⟨h.setInfo rfl (Nat.le_refl _) (h.covered.of_le fun account => ?_),
        settled_setInfo rfl rfl⟩
        by_cases heq : account = holder
        · subst heq
          simp only [TokenState.owed, TokenState.setInfo, update_self, if_pos hin,
            Nat.sub_self, Nat.mul_zero, Nat.add_zero, Nat.mul_add]
          omega
        · simp [TokenState.owed, TokenState.setInfo, heq]
      · rename_i hother
        obtain ⟨rewardBalance, hadd, hsettle⟩ := Option.bind_eq_some_iff.mp hsettle
        obtain ⟨rfl, -⟩ := checkedAdd256_eq_some.mp hadd
        obtain rfl := Option.some.inj hsettle
        have hcomm : ∀ info delegateInfo, (st.setInfo (st.userRewardInfo holder).rewardRecipient
            delegateInfo).setInfo holder info = (st.setInfo holder info).setInfo
            (st.userRewardInfo holder).rewardRecipient delegateInfo := by
          intro info delegateInfo
          simp only [TokenState.setInfo, TokenState.mk.injEq, true_and]
          exact update_comm hother _ _ _
        rw [hcomm]
        refine ⟨h.settleDelegate hin hother hround, Settled.setInfo (settled_setInfo rfl rfl) ?_ ?_⟩
        · simp [TokenState.setInfo, hother]
        · simp [TokenState.setInfo, hother]

/-- `update_rewards` settles the holder and returns its delegate. -/
theorem Rewards.updateRewards {delegate : Address} (h : Rewards token held st)
    (hT8 : ctx.spec.isT8 = false) (hrun : updateRewards ctx holder st = .ok delegate st') :
    Rewards token held st' ∧ Settled st st' holder ∧
      delegate = (st'.userRewardInfo holder).rewardRecipient := by
  unfold Tip20.updateRewards at hrun
  rw [hT8, if_neg Bool.false_ne_true, get_bind_ok] at hrun
  obtain ⟨settled, hsettle, hrun⟩ := okOr_bind_ok.mp hrun
  obtain ⟨rfl, rfl⟩ := pure_ok.mp hrun
  obtain ⟨hrewards, hsettled⟩ := h.settle hsettle
  exact ⟨hrewards, hsettled, (hsettled.recipients holder).symm⟩

/-! ## The opted-in supply -/

/-- What an account counts of an amount. -/
def optedPart (delegate : Address) (amount : ℕ) : ℕ := if delegate ≠ 0 then amount else 0

/-- The opted-in supply was adjusted to an amount that goes from one delegate to another. -/
structure Adjusted (st st' : TokenState) (fromDelegate toDelegate : Address) (amount : ℕ) :
    Prop where
  balances : st'.balances = st.balances
  info : st'.userRewardInfo = st.userRewardInfo
  rate : st'.globalRewardPerToken = st.globalRewardPerToken
  supply : st'.optedInSupply + optedPart fromDelegate amount =
    st.optedInSupply + optedPart toDelegate amount

theorem addOptedIn_ok (h : addOptedIn amount st = .ok u st') :
    st' = { st with optedInSupply := st.optedInSupply + amount } := by
  obtain ⟨supply, ⟨rfl, -⟩, h⟩ := value_bind_ok checkedAdd128_eq_some.mp h
  exact modify_ok.mp h

theorem subOptedIn_ok (h : subOptedIn amount st = .ok u st') :
    amount ≤ st.optedInSupply ∧
      st' = { st with optedInSupply := st.optedInSupply - amount } := by
  obtain ⟨supply, ⟨hle, rfl⟩, h⟩ := value_bind_ok checkedSub_eq_some.mp h
  exact ⟨hle, modify_ok.mp h⟩

variable {fromDelegate toDelegate delegate : Address}

theorem adjusted_add (h : onlyIf (delegate ≠ 0) (addOptedIn amount) st = .ok u st') :
    Adjusted st st' 0 delegate amount := by
  obtain ⟨hin, h⟩ | ⟨hout, rfl⟩ := onlyIf_ok.mp h
  · obtain rfl := addOptedIn_ok h
    exact ⟨rfl, rfl, rfl, by simp [optedPart, hin]⟩
  · exact ⟨rfl, rfl, rfl, by simp [optedPart, not_not.mp hout]⟩

theorem adjusted_sub (h : onlyIf (delegate ≠ 0) (subOptedIn amount) st = .ok u st') :
    Adjusted st st' delegate 0 amount := by
  obtain ⟨hin, h⟩ | ⟨hout, rfl⟩ := onlyIf_ok.mp h
  · obtain ⟨hle, rfl⟩ := subOptedIn_ok h
    refine ⟨rfl, rfl, rfl, ?_⟩
    simp [optedPart, hin]
    omega
  · exact ⟨rfl, rfl, rfl, by simp [optedPart, not_not.mp hout]⟩

theorem adjustOptedIn_ok (h : adjustOptedIn fromDelegate toDelegate amount st = .ok u st') :
    Adjusted st st' fromDelegate toDelegate amount := by
  unfold adjustOptedIn at h
  split at h
  · rename_i hfrom
    obtain ⟨hto, h⟩ | ⟨hto, rfl⟩ := onlyIf_ok.mp h
    · obtain ⟨hle, rfl⟩ := subOptedIn_ok h
      refine ⟨rfl, rfl, rfl, ?_⟩
      simp [optedPart, hfrom, hto]
      omega
    · exact ⟨rfl, rfl, rfl, by simp [optedPart, hfrom, hto]⟩
  · rename_i hfrom
    rw [not_not.mp hfrom]
    exact adjusted_add h

/-- A new balance counts if its holder has a delegate. -/
theorem optedBalances_update (info : Address → UserRewardInfo) (balances : Address → ℕ)
    (account : Address) (balance : ℕ) :
    optedBalances info (update balances account balance) =
      update (optedBalances info balances) account
        (optedPart (info account).rewardRecipient balance) := by
  funext holder
  by_cases heq : holder = account
  · subst heq
    simp [optedBalances, optedPart]
  · simp [optedBalances, heq]

section OptedTotals

variable (h : Totals (optedBalances info balances) total)

include h

theorem totals_opted_debit (henough : amount ≤ balances account)
    (hn : n + optedPart (info account).rewardRecipient amount = total) :
    Totals (optedBalances info (debit balances account amount)) n := by
  rw [debit, optedBalances_update]
  refine h.update account ?_
  unfold optedPart at hn ⊢
  unfold optedBalances
  split
  · rename_i hin
    rw [if_pos hin] at hn
    omega
  · rename_i hout
    rw [if_neg hout] at hn
    omega

theorem totals_opted_credit (hn : n = total + optedPart (info account).rewardRecipient amount) :
    Totals (optedBalances info (credit balances account amount)) n := by
  rw [credit, optedBalances_update]
  refine h.update account ?_
  unfold optedPart at hn ⊢
  unfold optedBalances
  split
  · rename_i hin
    rw [if_pos hin] at hn
    omega
  · rename_i hout
    rw [if_neg hout] at hn
    omega

/-- What counts of an amount that an account has is part of the opted-in supply. -/
theorem optedPart_le (henough : amount ≤ balances account) :
    optedPart (info account).rewardRecipient amount ≤ total := by
  refine Nat.le_trans ?_ (h.le account)
  unfold optedPart optedBalances
  split
  · exact henough
  · exact Nat.le_refl _

theorem totals_opted_moved (henough : amount ≤ balances sender)
    (hn : n + optedPart (info sender).rewardRecipient amount =
      total + optedPart (info recipient).rewardRecipient amount) :
    Totals (optedBalances info (credit (debit balances sender amount) recipient amount)) n := by
  have hpart := optedPart_le h henough
  have hdebit := totals_opted_debit h henough (Nat.sub_add_cancel hpart)
  exact totals_opted_credit hdebit (by omega)

end OptedTotals

/-! ## Moves of funds -/

/-- Balances of accounts that are up to date or have no delegate may change. -/
theorem Rewards.move (h : Rewards token held t) (hinfo : st'.userRewardInfo = t.userRewardInfo)
    (hrate : st'.globalRewardPerToken = t.globalRewardPerToken)
    (hopted : Totals (optedBalances t.userRewardInfo st'.balances) st'.optedInSupply)
    (hcurrent : ∀ account, st'.balances account ≠ t.balances account →
      (t.userRewardInfo account).rewardRecipient ≠ 0 →
      (t.userRewardInfo account).rewardPerToken = t.globalRewardPerToken) :
    Rewards token held st' := by
  have howed : st'.owed = t.owed := by
    funext account
    unfold TokenState.owed
    rw [hinfo, hrate]
    by_cases heq : st'.balances account = t.balances account
    · rw [heq]
    · split
      · rename_i hin
        rw [hcurrent account heq hin]
        simp
      · rfl
  refine ⟨?_, ?_, ?_, ?_, ?_, ?_⟩
  · rw [hinfo]
    exact hopted
  · rw [hinfo, hrate]
    exact h.current
  · rw [hinfo]
    exact h.tokenOut
  · rw [hinfo]
    exact h.managerOut
  · rw [hinfo]
    exact h.zeroOut
  · rw [howed]
    exact h.covered

/-- The same balances and rewards. -/
structure SameLedger (st st' : TokenState) : Prop where
  balances : st'.balances = st.balances
  info : st'.userRewardInfo = st.userRewardInfo
  rate : st'.globalRewardPerToken = st.globalRewardPerToken
  opted : st'.optedInSupply = st.optedInSupply

theorem SameLedger.refl : SameLedger st st := ⟨rfl, rfl, rfl, rfl⟩

theorem Rewards.same (h : Rewards token held st) (hsame : SameLedger st st') :
    Rewards token held st' := by
  refine h.move hsame.info hsame.rate ?_ fun account hne => absurd (by rw [hsame.balances]) hne
  rw [hsame.balances, hsame.opted]
  exact h.opted

/-- The same rewards, whatever the balances. -/
structure SameRewards (st st' : TokenState) : Prop where
  info : st'.userRewardInfo = st.userRewardInfo
  rate : st'.globalRewardPerToken = st.globalRewardPerToken
  opted : st'.optedInSupply = st.optedInSupply

theorem keeps_incrementBalance : Keeps (SameRewards st) (incrementBalance account amount) :=
  keeps_get_bind fun _ _ => keeps_bind (keeps_okOr _ _) fun _ =>
    keeps_modify fun _ h => ⟨h.info, h.rate, h.opted⟩

theorem keeps_decrementBalance :
    Keeps (SameRewards st) (decrementBalance token account amount) :=
  keeps_get_bind fun _ _ => keeps_bind (keeps_okOr _ _) fun _ =>
    keeps_modify fun _ h => ⟨h.info, h.rate, h.opted⟩

theorem keeps_debitSender {balance : Option ℕ} :
    Keeps (SameRewards st) (debitSender token sender amount balance) := by
  cases balance with
  | none => exact keeps_decrementBalance
  | some balance =>
    exact keeps_bind (keeps_okOr _ _) fun _ => keeps_modify fun _ h => ⟨h.info, h.rate, h.opted⟩

/-- Two accounts are up to date and the opted-in supply is ready for a payment between
them. -/
structure Prepared (token : Address) (held : ℕ) (st t : TokenState) (sender recipient : Address)
    (amount : ℕ) : Prop where
  ledger : ∃ settled, Rewards token held settled ∧
    Adjusted settled t (settled.userRewardInfo sender).rewardRecipient
      (settled.userRewardInfo recipient).rewardRecipient amount
  balances : t.balances = st.balances
  sender : (t.userRewardInfo sender).rewardRecipient ≠ 0 →
    (t.userRewardInfo sender).rewardPerToken = t.globalRewardPerToken
  recipient : (t.userRewardInfo recipient).rewardRecipient ≠ 0 →
    (t.userRewardInfo recipient).rewardPerToken = t.globalRewardPerToken

/-- After the preparation the balances may move. -/
theorem Prepared.rewards (h : Prepared token held st t sender recipient amount)
    (hrewards : SameRewards t st')
    (htotals : ∀ (info : Address → UserRewardInfo) (total n : ℕ),
      (info 0).rewardRecipient = 0 → Totals (optedBalances info st.balances) total →
      n + optedPart (info sender).rewardRecipient amount =
        total + optedPart (info recipient).rewardRecipient amount →
      Totals (optedBalances info st'.balances) n)
    (hother : ∀ account, account ≠ sender → account ≠ recipient →
      st'.balances account = st.balances account) : Rewards token held st' := by
  obtain ⟨settled, hsettled, hadjusted⟩ := h.ledger
  refine hsettled.move (hrewards.info.trans hadjusted.info) (hrewards.rate.trans hadjusted.rate)
    ?_ fun account hne hin => ?_
  · refine htotals settled.userRewardInfo settled.optedInSupply _ hsettled.zeroOut ?_ ?_
    · rw [← h.balances, hadjusted.balances]
      exact hsettled.opted
    · rw [hrewards.opted]
      exact hadjusted.supply
  · rw [← hadjusted.info] at hin ⊢
    rw [← hadjusted.rate]
    rw [← hadjusted.balances, h.balances] at hne
    by_cases hsender : account = sender
    · rw [hsender] at hin ⊢
      exact h.sender hin
    · by_cases hrecipient : account = recipient
      · rw [hrecipient] at hin ⊢
        exact h.recipient hin
      · exact absurd (hother account hsender hrecipient) hne

theorem Prepared.moved (h : Prepared token held st t sender recipient amount)
    (hrewards : SameRewards t st') (hmoved : Moved st st' sender recipient amount) :
    Rewards token held st' := by
  refine h.rewards hrewards ?_ ?_
  · intro info total n _ htotals hn
    rw [hmoved.balances]
    exact totals_opted_moved htotals hmoved.enough hn
  · intro account hsender hrecipient
    rw [hmoved.balances]
    simp [credit, debit, hsender, hrecipient]

theorem Prepared.debited (h : Prepared token held st t sender 0 amount)
    (hrewards : SameRewards t st') (henough : amount ≤ st.balances sender)
    (hbalances : st'.balances = debit st.balances sender amount) : Rewards token held st' := by
  refine h.rewards hrewards ?_ ?_
  · intro info total n hzero htotals hn
    rw [hbalances]
    refine totals_opted_debit htotals henough ?_
    rw [hn, hzero]
    simp [optedPart]
  · intro account hsender _
    rw [hbalances]
    simp [debit, hsender]

section Rewarding

variable (h : Rewards token held st)

include h

section BelowT8

variable (hT8 : ctx.spec.isT8 = false)

include hT8

theorem Rewards.handleRewardsOnTransfer
    (hrun : handleRewardsOnTransfer ctx sender recipient amount st = .ok u st') :
    Prepared token held st st' sender recipient amount := by
  obtain ⟨fromDelegate, t₁, ⟨hfirst, hsettled, rfl⟩, hrun⟩ :=
    step_bind_ok (h.updateRewards hT8) hrun
  obtain ⟨toDelegate, t₂, ⟨hsecond, hsettled', rfl⟩, hrun⟩ :=
    step_bind_ok (hfirst.updateRewards hT8) hrun
  have hadjusted := adjustOptedIn_ok hrun
  rw [← hsettled'.recipients sender] at hadjusted
  refine ⟨⟨t₂, hsecond, hadjusted⟩, ?_, fun _ => ?_, fun _ => ?_⟩
  · rw [hadjusted.balances, hsettled'.balances, hsettled.balances]
  · rw [hadjusted.info, hadjusted.rate]
    exact hsettled'.upToDate sender (.inr (hsettled.upToDate sender (.inl rfl)))
  · rw [hadjusted.info, hadjusted.rate]
    exact hsettled'.upToDate recipient (.inl rfl)

theorem Rewards.innerTransfer {dest : Recipient}
    (hrun : innerTransfer ctx other sender dest amount st = .ok u st') :
    Rewards token held st' := by
  have hfunds := innerTransfer_ok hrun
  obtain ⟨balance, t₁, ⟨rfl, -⟩, hrun⟩ := step_bind_ok senderBalance_ok hrun
  obtain ⟨_, t₂, hhandle, hrun⟩ := bind_ok.mp hrun
  have hprepared := h.handleRewardsOnTransfer hT8 hhandle
  obtain ⟨_, t₃, hdebit, hrun⟩ := bind_ok.mp hrun
  have hsame := keeps_debitSender.ok (⟨rfl, rfl, rfl⟩ : SameRewards t₂ t₂) hdebit
  have hrewards := (keeps_onlyIf fun _ => keeps_incrementBalance).ok hsame hrun
  split at hfunds
  · rename_i hzero
    rw [hzero] at hprepared
    exact hprepared.debited hrewards hfunds.enough hfunds.balances
  · exact hprepared.moved hrewards hfunds

theorem Rewards.innerMint {dest : Recipient}
    (hrun : innerMint ctx dest st.totalSupply amount st = .ok u st') :
    Rewards token held st' := by
  have hminted := innerMint_ok hrun
  obtain ⟨newSupply, -, hrun⟩ := okOr_bind_ok.mp hrun
  rw [get_bind_ok, require_bind_ok] at hrun
  obtain ⟨_, t₁, hhandle, hrun⟩ := bind_ok.mp hrun.2
  obtain ⟨delegate, t₂, ⟨hsettledRewards, hsettled, rfl⟩, hadd⟩ :=
    step_bind_ok (h.updateRewards hT8) hhandle
  have hadjusted := adjusted_add hadd
  have hrewards : SameRewards t₁ st' :=
    keeps_incrementBalance.ok (by exact ⟨rfl, rfl, rfl⟩) hrun
  refine hsettledRewards.move (hrewards.info.trans hadjusted.info)
    (hrewards.rate.trans hadjusted.rate) ?_ fun account hne hin => ?_
  · rw [hminted.balances, ← hsettled.balances]
    refine totals_opted_credit hsettledRewards.opted ?_
    rw [hrewards.opted]
    simpa [optedPart] using hadjusted.supply
  · rw [hminted.balances, ← hsettled.balances] at hne
    by_cases heq : account = dest.target
    · rw [heq]
      exact hsettled.upToDate dest.target (.inl rfl)
    · exact absurd (by simp [credit, heq]) hne

/-- The fee before a transaction: the fee manager has no delegate. -/
theorem Rewards.transferFeePreTx (hrun : transferFeePreTx ctx other sender amount st = .ok u st') :
    Rewards token held st' := by
  have hmoved := transferFeePreTx_ok hrun
  replace hrun := fromExcept_rest hrun
  replace hrun := fromExcept_rest hrun
  obtain ⟨delegate, t₁, ⟨hsettledRewards, hsettled, rfl⟩, hrun⟩ :=
    step_bind_ok (h.updateRewards hT8) hrun
  obtain ⟨_, t₂, hsub, hrun⟩ := bind_ok.mp hrun
  have hadjusted := adjusted_sub hsub
  obtain ⟨_, t₃, hdebit, hrun⟩ := bind_ok.mp hrun
  have hsame := keeps_decrementBalance.ok (⟨rfl, rfl, rfl⟩ : SameRewards t₂ t₂) hdebit
  have hrewards := keeps_incrementBalance.ok hsame hrun
  rw [← hsettledRewards.managerOut] at hadjusted
  have hprepared : Prepared token held st t₂ sender tipFeeManagerAddress amount := by
    refine ⟨⟨t₁, hsettledRewards, hadjusted⟩, hadjusted.balances.trans hsettled.balances,
      fun _ => ?_, fun hin => ?_⟩
    · rw [hadjusted.info, hadjusted.rate]
      exact hsettled.upToDate sender (.inl rfl)
    · rw [hadjusted.info] at hin
      exact absurd hsettledRewards.managerOut hin
  exact hprepared.moved hrewards hmoved

theorem Rewards.transferFeePostTx {dest : Address} {refund : ℕ}
    (hrun : transferFeePostTx ctx other dest refund st = .ok u st') :
    Rewards token held st' := by
  have hfunds := transferFeePostTx_ok hrun
  obtain ⟨hrefund, hrun⟩ | ⟨-, rfl⟩ := onlyIf_ok.mp hrun
  · rw [if_neg hrefund] at hfunds
    replace hrun := fromExcept_rest hrun
    obtain ⟨delegate, t₁, ⟨hsettledRewards, hsettled, rfl⟩, hrun⟩ :=
      step_bind_ok (h.updateRewards hT8) hrun
    obtain ⟨_, t₂, hadd, hrun⟩ := bind_ok.mp hrun
    have hadjusted := adjusted_add hadd
    obtain ⟨_, t₃, hdebit, hrun⟩ := bind_ok.mp hrun
    have hsame := keeps_decrementBalance.ok (⟨rfl, rfl, rfl⟩ : SameRewards t₂ t₂) hdebit
    have hrewards := keeps_incrementBalance.ok hsame hrun
    rw [← hsettledRewards.managerOut] at hadjusted
    have hprepared : Prepared token held st t₂ tipFeeManagerAddress dest refund := by
      refine ⟨⟨t₁, hsettledRewards, hadjusted⟩, hadjusted.balances.trans hsettled.balances,
        fun hin => ?_, fun _ => ?_⟩
      · rw [hadjusted.info] at hin
        exact absurd hsettledRewards.managerOut hin
      · rw [hadjusted.info, hadjusted.rate]
        exact hsettled.upToDate dest (.inl rfl)
    exact hprepared.moved hrewards hfunds
  · exact h

/-! ## Reward operations -/

/-- A new delegate: the holder is settled first. -/
theorem Rewards.setRewardRecipient
    (hsender : sender ≠ token ∧ sender ≠ tipFeeManagerAddress ∧ sender ≠ 0)
    (hrun : setRewardRecipient ctx other sender recipient st = .ok u st') :
    Rewards token held st' := by
  obtain ⟨-, hrun⟩ | ⟨-, rfl⟩ := onlyIf_ok.mp hrun
  · replace hrun := fromExcept_rest hrun
    replace hrun := require_rest hrun
    replace hrun := fromExcept_rest hrun
    obtain ⟨delegate, t, ⟨hrewards, hsettled, rfl⟩, hrun⟩ := step_bind_ok (h.updateRewards hT8) hrun
    have hcurrent := hsettled.upToDate sender (.inl rfl)
    rw [get_bind_ok] at hrun
    obtain ⟨_, t₁, hadjust, hrun⟩ := bind_ok.mp hrun
    have hadjusted := adjustOptedIn_ok hadjust
    obtain rfl := modify_ok.mp hrun
    have hrow : ∀ account, account ≠ sender →
        (t₁.setInfo sender { t₁.userRewardInfo sender with rewardRecipient := recipient
          }).userRewardInfo account = t.userRewardInfo account := by
      intro account hne
      simp [TokenState.setInfo, hne, hadjusted.info]
    refine ⟨?_, fun account => ?_, ?_, ?_, ?_, ?_⟩
    · show Totals (optedBalances _ t₁.balances) t₁.optedInSupply
      have hopted : optedBalances (t₁.setInfo sender { t₁.userRewardInfo sender with
          rewardRecipient := recipient }).userRewardInfo t₁.balances =
          update (optedBalances t.userRewardInfo t.balances) sender
            (optedPart recipient (t.balances sender)) := by
        funext account
        rw [hadjusted.balances]
        by_cases heq : account = sender
        · subst heq
          simp [optedBalances, optedPart, TokenState.setInfo]
        · simp [optedBalances, hrow account heq, heq]
      rw [hopted]
      exact hrewards.opted.update sender hadjusted.supply.symm
    · show _ ≤ t₁.globalRewardPerToken
      rw [hadjusted.rate]
      by_cases heq : account = sender
      · subst heq
        simpa [TokenState.setInfo, hadjusted.info] using hrewards.current account
      · rw [hrow account heq]
        exact hrewards.current account
    · rw [hrow token hsender.1.symm]
      exact hrewards.tokenOut
    · rw [hrow tipFeeManagerAddress hsender.2.1.symm]
      exact hrewards.managerOut
    · rw [hrow 0 hsender.2.2.symm]
      exact hrewards.zeroOut
    · refine hrewards.covered.of_le fun account => ?_
      unfold TokenState.owed
      by_cases heq : account = sender
      · subst heq
        simp [TokenState.setInfo, hadjusted.info, hadjusted.rate, hcurrent]
      · rw [hrow account heq]
        simp [TokenState.setInfo, hadjusted.balances, hadjusted.rate]
  · exact h

end BelowT8

/-- A distribution raises the rate by what is paid per opted-in token, rounded down. -/
theorem Rewards.raiseRate {rate : ℕ} (hrate : rate * st.optedInSupply ≤ accPrecision * amount) :
    Rewards token (held + amount)
      { st with globalRewardPerToken := st.globalRewardPerToken + rate } := by
  refine ⟨h.opted, fun account => Nat.le_trans (h.current account) (Nat.le_add_right _ _),
    h.tokenOut, h.managerOut, h.zeroOut, ?_⟩
  have hadded := h.covered.add (h.opted.backed.mul rate)
  have hreserve : ((accPrecision * held : ℕ) : ℤ) + (st.optedInSupply * rate : ℕ) ≤
      (accPrecision * (held + amount) : ℕ) := by
    rw [Nat.mul_add, Nat.mul_comm st.optedInSupply]
    omega
  refine (hadded.mono hreserve).of_le fun account => ?_
  unfold TokenState.owed optedBalances
  have hcurrent := h.current account
  split
  · have hdelta : st.globalRewardPerToken + rate - (st.userRewardInfo account).rewardPerToken =
        st.globalRewardPerToken - (st.userRewardInfo account).rewardPerToken + rate := by
      omega
    simp only [hdelta, Nat.mul_add]
    omega
  · simp

end Rewarding

theorem Rewards.distributeReward (h : Rewards token (st.balances token) st)
    (hT8 : ctx.spec.isT8 = false) (htoken : token ≠ 0) (hsender : token ≠ sender)
    (hrun : distributeReward ctx token sender amount st = .ok u st') :
    Rewards token (st'.balances token) st' := by
  obtain rfl | ⟨t, htransfer, rfl⟩ := distributeReward_ok hrun
  · exact h
  · have hrewards := h.innerTransfer hT8 htransfer
    have hmoved : Moved st t sender token amount := innerTransfer_moved htoken htransfer
    rw [hmoved.balanceOf (.inr hsender), if_pos rfl]
    refine hrewards.raiseRate ?_
    rw [Nat.mul_comm accPrecision]
    exact Nat.div_mul_le_self _ _

theorem Rewards.takeRewards (holder : Address) (h : Rewards token held st) (hheld : amount ≤ held)
    (hstored : amount ≤ (st.userRewardInfo holder).rewardBalance) :
    Rewards token (held - amount) (st.setInfo holder { st.userRewardInfo holder with
      rewardBalance := (st.userRewardInfo holder).rewardBalance - amount }) := by
  have hreserve : accPrecision * (held - amount) + accPrecision * amount = accPrecision * held := by
    rw [← Nat.mul_add, Nat.sub_add_cancel hheld]
  have hrow : accPrecision * ((st.userRewardInfo holder).rewardBalance - amount) +
      accPrecision * amount = accPrecision * (st.userRewardInfo holder).rewardBalance := by
    rw [← Nat.mul_add, Nat.sub_add_cancel hstored]
  have hcovered : Backed (st.setInfo holder { st.userRewardInfo holder with
      rewardBalance := (st.userRewardInfo holder).rewardBalance - amount }).owed
      (accPrecision * (held - amount) : ℕ) := by
    refine h.covered.change holder (fun account hne => ?_) ?_
    · simp [TokenState.owed, TokenState.setInfo, hne]
    · simp only [TokenState.owed, TokenState.setInfo, update_self]
      omega
  have hbefore : Rewards token held (st.setInfo holder { st.userRewardInfo holder with
      rewardBalance := (st.userRewardInfo holder).rewardBalance - amount }) :=
    h.setInfo rfl (h.current holder)
      (hcovered.mono (Int.ofNat_le.mpr (Nat.mul_le_mul_left _ (Nat.sub_le _ _))))
  exact { hbefore with covered := hcovered }

/-- A claim pays stored rewards from what the token has. -/
theorem Rewards.claimRewards (h : Rewards token (st.balances token) st)
    (hT8 : ctx.spec.isT8 = false) (hsender : sender ≠ token)
    (hrun : claimRewards ctx token sender st = .ok u st') :
    Rewards token (st'.balances token) st' := by
  replace hrun := fromExcept_rest hrun
  replace hrun := fromExcept_rest hrun
  obtain ⟨delegate, t, ⟨hrewards, hsettled, rfl⟩, hrun⟩ := step_bind_ok (h.updateRewards hT8) hrun
  rw [get_bind_ok] at hrun
  rw [← hsettled.balances] at hrewards
  have htaken := hrewards.takeRewards sender
    (Nat.min_le_right (t.userRewardInfo sender).rewardBalance _) (Nat.min_le_left _ _)
  obtain ⟨-, hrun⟩ | ⟨hnothing, rfl⟩ := onlyIf_ok.mp hrun
  · have hrun := modify_bind_ok.mp hrun
    obtain ⟨balance, ⟨rfl, -⟩, hrun⟩ := value_bind_ok checkedAdd256_eq_some.mp hrun
    have hadjusted := adjusted_add hrun
    have hbalances : st'.balances = credit (debit t.balances token
        (min (t.userRewardInfo sender).rewardBalance (t.balances token))) sender
        (min (t.userRewardInfo sender).rewardBalance (t.balances token)) := by
      rw [hadjusted.balances]
      rfl
    have htoken : st'.balances token = t.balances token -
        min (t.userRewardInfo sender).rewardBalance (t.balances token) := by
      rw [hbalances]
      simp [credit, debit, hsender.symm]
    rw [htoken]
    refine htaken.move hadjusted.info hadjusted.rate ?_ fun account hne hin => ?_
    · rw [hbalances]
      refine totals_opted_moved htaken.opted (Nat.min_le_right _ _) ?_
      rw [htaken.tokenOut]
      have hsupply := hadjusted.supply
      simp only [TokenState.setInfo, TokenState.setBalance, update_self] at hsupply ⊢
      exact hsupply
    · by_cases heq : account = sender
      · subst heq
        simpa [TokenState.setInfo] using hsettled.upToDate account (.inl rfl)
      · by_cases htoken : account = token
        · rw [htoken] at hin
          exact absurd htaken.tokenOut hin
        · rw [hbalances] at hne
          exact absurd (by simp [credit, debit, heq, htoken, TokenState.setInfo]) hne
  · refine htaken.mono ?_
    exact Nat.sub_le _ _

/-! ## Calls -/

section Ledgers

variable {owner spender : Address}

theorem keeps_setAllowance : Keeps (SameLedger st) (setAllowance owner spender amount) :=
  keeps_modify fun _ h => ⟨h.balances, h.info, h.rate, h.opted⟩

theorem keeps_approve : Keeps (SameLedger st) (approve ctx token owner spender amount) :=
  keeps_get_bind fun _ _ => keeps_bind (keeps_fromExcept _) fun _ => keeps_setAllowance

theorem keeps_permit {deadline : ℕ} :
    Keeps (SameLedger st) (permit ctx token owner spender amount deadline) :=
  keeps_require_bind fun _ => keeps_require_bind fun _ => keeps_setAllowance

theorem keeps_spend {payer : Option Address} :
    Keeps (SameLedger st) (spend ctx token sender amount payer) := by
  cases payer with
  | none => exact keeps_fromExcept _
  | some payer =>
    exact keeps_get_bind fun _ _ => keeps_require_bind fun _ => keeps_onlyIf fun _ =>
      keeps_setAllowance

theorem keeps_setSupplyCap {newSupplyCap : ℕ} :
    Keeps (SameLedger st) (setSupplyCap ctx token sender newSupplyCap) :=
  keeps_bind (keeps_fromExcept _) fun _ => keeps_get_bind fun _ _ => keeps_require_bind fun _ =>
    keeps_require_bind fun _ => keeps_modify fun _ h => ⟨h.balances, h.info, h.rate, h.opted⟩

theorem keeps_initializeToken : Keeps (SameLedger st) initializeToken :=
  keeps_modify fun _ h => ⟨h.balances, h.info, h.rate, h.opted⟩

theorem keeps_reduceSupply : Keeps (SameLedger st) (reduceSupply token amount) :=
  keeps_get_bind fun _ _ => keeps_bind (keeps_okOr _ _) fun _ =>
    keeps_modify fun _ h => ⟨h.balances, h.info, h.rate, h.opted⟩

end Ledgers

theorem Rewards.burn (h : Rewards token held st) (hT8 : ctx.spec.isT8 = false)
    (hrun : (Tip20.innerTransfer ctx other sender (.direct 0) amount >>= fun _ =>
      reduceSupply other amount) st = .ok u st') : Rewards token held st' := by
  obtain ⟨_, t, htransfer, hrun⟩ := bind_ok.mp hrun
  exact (h.innerTransfer hT8 htransfer).same (keeps_reduceSupply.ok .refl hrun)

/-- The operations that rewards allow: the fee manager and the zero address never choose a
delegate, and a token's own balance is not burned. -/
def TokenOp.rewardSafe (token : Address) : TokenOp → Bool
  | .burnBlocked _ owner _ => owner != token
  | .setRewardRecipient sender _ => sender != tipFeeManagerAddress && sender != 0
  | _ => true

theorem TokenOp.rewards {op : TokenOp} (hT8 : ctx.spec.isT8 = false)
    (htoken : isTip20 token = true) (hactor : op.actor ≠ some token)
    (hsafe : op.rewardSafe token = true) (h : Rewards token (st.balances token) st)
    (hrun : op.run ctx token st = .ok () st') : Rewards token (st'.balances token) st' := by
  have hzero := isTip20_ne_zero htoken
  have hmanager : token ≠ tipFeeManagerAddress := by
    rintro rfl
    exact absurd htoken (by decide)
  have hle : ¬ op.payer token token → st.balances token ≤ st'.balances token := by
    intro hpayer
    rcases op.effect hzero hrun with heffect | heffect
    · exact heffect.le_balance hpayer
    · rw [heffect.balances]
  have hother : ∀ sender, op.actor = some sender → token ≠ sender := by
    rintro sender hsender rfl
    exact hactor hsender
  cases op with
  | create => exact (h.same (keeps_initializeToken.ok .refl hrun)).mono (hle not_false)
  | burn sender amount =>
    have hburn := fromExcept_rest hrun
    replace hburn := fromExcept_rest hburn
    exact (h.burn hT8 hburn).mono (hle (hother sender rfl))
  | burnBlocked sender owner amount =>
    have hburn := fromExcept_rest hrun
    replace hburn := fromExcept_rest hburn
    replace hburn := require_rest hburn
    obtain ⟨_, -, hburn⟩ := fromExcept_bind_ok.mp hburn
    replace hburn := require_rest hburn
    have howner : owner ≠ token := by simpa [TokenOp.rewardSafe] using hsafe
    exact (h.burn hT8 hburn).mono (hle fun heq => howner heq.symm)
  | channelReserveTransfer sender dest amount receivePolicySender =>
    have htransfer := require_rest hrun
    replace htransfer := fromExcept_rest htransfer
    replace htransfer := fromExcept_rest htransfer
    replace htransfer := fromExcept_rest htransfer
    replace htransfer := require_rest htransfer
    replace htransfer := fromExcept_rest htransfer
    exact (h.innerTransfer hT8 htransfer).mono (hle (hother sender rfl))
  | transferFeePreTx sender amount =>
    exact (h.transferFeePreTx hT8 hrun).mono (hle (hother sender rfl))
  | transferFeePostTx dest refund => exact (h.transferFeePostTx hT8 hrun).mono (hle hmanager)
  | distributeReward sender amount =>
    exact h.distributeReward hT8 hzero (hother sender rfl) hrun
  | setRewardRecipient sender recipient =>
    have hchooses : sender ≠ tipFeeManagerAddress ∧ sender ≠ 0 := by
      simpa [TokenOp.rewardSafe] using hsafe
    exact (h.setRewardRecipient hT8 ⟨(hother sender rfl).symm, hchooses⟩ hrun).mono
      (hle not_false)
  | claimRewards sender => exact h.claimRewards hT8 (hother sender rfl).symm hrun
  | setSupplyCap sender newSupplyCap =>
    exact (h.same (keeps_setSupplyCap.ok .refl hrun)).mono (hle not_false)
  | approve sender spender amount =>
    exact (h.same (keeps_approve.ok .refl hrun)).mono (hle not_false)
  | permit owner spender value deadline =>
    exact (h.same (keeps_permit.ok .refl hrun)).mono (hle not_false)

/-! ## Runs -/

def Call.rewardSafe : Call → Bool
  | .operation token op => op.rewardSafe token
  | _ => true

/-- Below T7, a token sends and signs nothing itself. -/
def RewardCall (ctx : Context) (call : Call) : Prop :=
  ctx.spec.isT7 = false ∧ isTip20 call.tokenAddress = true ∧
    call.actor ≠ some call.tokenAddress ∧ call.rewardSafe = true

instance : DecidablePred (RewardCall ctx) := fun call =>
  inferInstanceAs (Decidable (ctx.spec.isT7 = false ∧ isTip20 call.tokenAddress = true ∧
    call.actor ≠ some call.tokenAddress ∧ call.rewardSafe = true))

/-- The rewards of every token are in order, and covered by its own balance, which nobody may
spend. -/
structure RewardedWorld (w : World) : Prop where
  rewards : ∀ token, Rewards token ((w.tokens token).balances token) (w.tokens token)
  allowances : ∀ token spender, (w.tokens token).allowances token spender = 0

theorem RewardedWorld.empty : RewardedWorld .empty :=
  ⟨fun _ => Rewards.empty, fun _ _ => rfl⟩

variable {w w' : World}

theorem RewardedWorld.setToken (h : RewardedWorld w)
    (hrewards : Rewards token (st.balances token) st)
    (hallowances : ∀ spender, st.allowances token spender = 0) :
    RewardedWorld (w.setToken token st) := by
  refine ⟨fun other => ?_, fun other spender => ?_⟩
  · by_cases heq : other = token
    · rw [heq, setToken_self]
      exact hrewards
    · rw [setToken_other heq]
      exact h.rewards other
  · by_cases heq : other = token
    · rw [heq, setToken_self]
      exact hallowances spender
    · rw [setToken_other heq]
      exact h.allowances other spender

section Steps

variable [ReceiptHash]

theorem RewardedWorld.step {call : Call} {result : ℕ} (h : RewardedWorld w)
    (hallowed : RewardCall ctx call) (hstep : CallStep ctx w call result w') :
    RewardedWorld w' := by
  obtain ⟨hT7, htoken, hactor, hsafe⟩ := hallowed
  have hT8 : ctx.spec.isT8 = false := by
    by_contra hT8
    rw [TempoHardfork.isT7_of_isT8 (by simpa using hT8)] at hT7
    exact nomatch hT7
  have hpaid : ∀ {p : Payment} {recipient : Recipient} {st₁ st₂ : TokenState},
      call.payment = some p → recipient.target ≠ 0 →
      spend ctx p.token p.sender p.amount p.spender (w.tokens p.token) = .ok () st₁ →
      Tip20.innerTransfer ctx p.token p.sender recipient p.amount st₁ = .ok () st₂ →
      RewardedWorld (w.setToken p.token st₂) := by
    intro p recipient st₁ st₂ hpayment hvalid hspent htransfer
    rw [Call.payment_token hpayment] at hactor
    obtain ⟨hpays, hbalances, hallowances⟩ :=
      Call.payment_spent (h.allowances p.token) hactor hpayment hspent
    have hmoved := innerTransfer_moved hvalid htransfer
    have hrewards := ((h.rewards p.token).same (keeps_spend.ok .refl hspent)).innerTransfer hT8
      htransfer
    refine h.setToken (hrewards.mono ?_) ?_
    · rw [hmoved.balanceOf hpays, hbalances]
      exact Nat.le_add_right _ _
    · rw [hmoved.allowances]
      exact hallowances
  have hminted : ∀ {token : Address} {recipient : Recipient} {amount : ℕ} {st : TokenState},
      Tip20.innerMint ctx recipient (w.tokens token).totalSupply amount (w.tokens token) =
        .ok () st → RewardedWorld (w.setToken token st) := by
    intro token recipient amount st hmint
    have hfunds := innerMint_ok hmint
    refine h.setToken (((h.rewards token).innerMint hT8 hmint).mono ?_) ?_
    · rw [hfunds.balanceOf]
      exact Nat.le_add_right _ _
    · rw [hfunds.allowances]
      exact h.allowances token
  cases hstep with
  | operation run =>
    have hzero := isTip20_ne_zero htoken
    exact h.setToken (TokenOp.rewards hT8 htoken hactor hsafe (h.rewards _) run)
      (TokenOp.noAllowance hzero hactor (h.allowances _) run)
  | delivered payment valid direct spent transfer => exact hpaid payment valid spent transfer
  | diverted payment resolved spent policy transfer =>
    have hworld := hpaid payment (by decide) spent transfer
    exact ⟨hworld.rewards, hworld.allowances⟩
  | minted direct mint => exact hminted mint
  | mintDiverted resolved policy mint =>
    have hworld := hminted mint
    exact ⟨hworld.rewards, hworld.allowances⟩
  | @claimed sender dest receiver receipt mode st authority other unclaimed release =>
    obtain ⟨destination, -, hmoved⟩ := releaseBlockedFunds_ok release
    have htransfer := fromExcept_rest release
    obtain ⟨destination, -, htransfer⟩ := fromExcept_bind_ok.mp htransfer
    replace htransfer := fromExcept_rest htransfer
    replace htransfer := fromExcept_rest htransfer
    have hguard : receipt.token ≠ receivePolicyGuardAddress := isTip20_ne_guard htoken
    have hworld : RewardedWorld (w.setToken receipt.token st) := by
      refine h.setToken (((h.rewards receipt.token).innerTransfer hT8 htransfer).mono ?_) ?_
      · rw [hmoved.balanceOf (.inr hguard)]
        exact Nat.le_add_right _ _
      · rw [hmoved.allowances]
        exact h.allowances receipt.token
    exact ⟨hworld.rewards, hworld.allowances⟩
  | @receiptBurned sender owner receipt st unclaimed burn =>
    have hburned := (burnBlocked_ok burn).2
    have hburn := fromExcept_rest burn
    replace hburn := fromExcept_rest hburn
    obtain ⟨_, -, hburn⟩ := fromExcept_bind_ok.mp hburn
    replace hburn := require_rest hburn
    have hguard : receipt.token ≠ receivePolicyGuardAddress := isTip20_ne_guard htoken
    have hworld : RewardedWorld (w.setToken receipt.token st) := by
      refine h.setToken (((h.rewards receipt.token).burn hT8 hburn).mono ?_) ?_
      · rw [hburned.balances]
        simp [debit, hguard]
      · rw [hburned.allowances]
        exact h.allowances receipt.token
    exact ⟨hworld.rewards, hworld.allowances⟩

theorem RewardedWorld.run (h : RewardedWorld w) (run : WorldRun RewardCall w w') :
    RewardedWorld w' := by
  induction run with
  | refl => exact h
  | tail _ step ih =>
    obtain ⟨ctx, call, result, hallowed, hcall⟩ := step
    exact ih.step hallowed (Call.step hcall)

/-- In every state that calls reach below T7, the opted-in supply of a token is the sum of the
balances of the holders that have a delegate, no holder is ahead of the global rate, and the
token's own balance covers the stored rewards and everything that accrued, rounded down. -/
theorem reachable_rewards (run : WorldRun RewardCall .empty w) (token : Address) :
    let st := w.tokens token
    Totals (fun holder => if (st.userRewardInfo holder).rewardRecipient ≠ 0 then
        st.balances holder else 0) st.optedInSupply ∧
      (∀ holder, (st.userRewardInfo holder).rewardPerToken ≤ st.globalRewardPerToken) ∧
      Backed (fun holder => (st.userRewardInfo holder).rewardBalance +
        if (st.userRewardInfo holder).rewardRecipient ≠ 0 then
          st.balances holder * (st.globalRewardPerToken -
            (st.userRewardInfo holder).rewardPerToken) / accPrecision
        else 0) (st.balances token) := by
  have h := (RewardedWorld.empty.run run).rewards token
  refine ⟨h.opted, h.current, ?_⟩
  have hprecision : 0 < accPrecision := by decide
  refine Backed.of_mul hprecision (h.covered.of_le fun holder => ?_)
  rw [Nat.mul_add]
  unfold TokenState.owed
  split
  · exact Nat.add_le_add_left (Nat.mul_div_le _ _) _
  · exact Nat.le_refl _

end Steps

/-- Account seven has eight as its delegate; rewards are distributed and a transfer settles
them. -/
def rewardSample : List Call :=
  [.operation pathUsdAddress .create, .mint pathUsdAddress 5 7 100 0,
    .mint pathUsdAddress 5 9 10 0, .operation pathUsdAddress (.setRewardRecipient 7 8),
    .operation pathUsdAddress (.distributeReward 9 10), .transfer pathUsdAddress 7 9 40 0]

/-- The delegate can claim all that was distributed, and the token has it. -/
theorem reachable_rewards_settled :
    letI := ReceiptHash.paired
    ∃ w, WorldRun RewardCall .empty w ∧
      ((w.tokens pathUsdAddress).userRewardInfo 8).rewardBalance = 10 ∧
      (w.tokens pathUsdAddress).optedInSupply = 60 ∧
      10 ≤ (w.tokens pathUsdAddress).balances pathUsdAddress := by
  let := ReceiptHash.paired
  have hreturned : returned ((do
      runCalls (.permissive .T6 fun _ => false) rewardSample
      let w ← get
      require (((w.tokens pathUsdAddress).userRewardInfo 8).rewardBalance = 10 ∧
        (w.tokens pathUsdAddress).optedInSupply = 60) .underOverflow : WorldM Unit)
      .empty) = true := by
    decide +kernel
  obtain ⟨_, w, hrun⟩ := returned_iff.mp hreturned
  obtain ⟨_, w₁, hcalls, hrun⟩ := bind_ok.mp hrun
  obtain ⟨⟨hstored, hopted⟩, rfl⟩ := require_ok.mp hrun
  have hreach : WorldRun RewardCall .empty w₁ := worldRun_of_runCalls (by decide) hcalls
  refine ⟨w₁, hreach, hstored, hopted, ?_⟩
  have hcovered := (reachable_rewards hreach pathUsdAddress).2.2.le 8
  omega

end Monotempo.Tip20
