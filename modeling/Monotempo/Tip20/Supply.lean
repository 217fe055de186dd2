/-
  The balances of a token add up to its supply.

  A token is sound if its balances sum to the total supply, which is within the cap,
  which fits a `u128`.  The five effects keep a token sound, so every run of calls does.
-/
import Monotempo.Tip20.Calls

set_option autoImplicit false

namespace Monotempo.Tip20

open Chain Foundation

variable {σ : Type} {dest : Address} {memo : B256} {condition : Prop} {receipt : ClaimReceipt}

/-! ## Sound tokens -/

/-- The balances sum to the supply, and the supply is within a cap that fits. -/
structure Sound (st : TokenState) : Prop where
  totals : Totals st.balances st.totalSupply
  capped : st.totalSupply ≤ st.supplyCap
  bounded : st.supplyCap ≤ u128Max

theorem Sound.empty : Sound .empty :=
  ⟨totals_zero, Nat.le_refl _, Nat.zero_le _⟩

variable {st st' : TokenState} {account sender recipient : Address} {amount : ℕ}

theorem Sound.balance_le (h : Sound st) (account : Address) :
    st.balances account ≤ st.totalSupply :=
  h.totals.le account

variable {balances : Address → ℕ}

theorem totals_debit {total : ℕ} (h : Totals balances total) (henough : amount ≤ balances sender) :
    Totals (debit balances sender amount) (total - amount) := by
  have hle := Nat.le_trans henough (h.le sender)
  exact h.update sender (by omega)

theorem totals_credit {total : ℕ} (h : Totals balances total) :
    Totals (credit balances recipient amount) (total + amount) :=
  h.update recipient (by omega)

theorem Sound.moved (h : Sound st) (hmoved : Moved st st' sender recipient amount) :
    Sound st' := by
  have hle := Nat.le_trans hmoved.enough (h.balance_le sender)
  refine ⟨?_, ?_, ?_⟩
  · rw [hmoved.balances, hmoved.totalSupply]
    have htotals := @totals_credit recipient amount _ _ (totals_debit h.totals hmoved.enough)
    rwa [Nat.sub_add_cancel hle] at htotals
  · rw [hmoved.totalSupply, hmoved.supplyCap]
    exact h.capped
  · rw [hmoved.supplyCap]
    exact h.bounded

theorem Sound.burned (h : Sound st) (hburned : Burned st st' sender amount) : Sound st' := by
  have htotals := totals_debit h.totals hburned.enough
  have hsupply := hburned.totalSupply
  refine ⟨?_, ?_, ?_⟩
  · rw [hburned.balances]
    have heq : st.totalSupply - amount = st'.totalSupply := by omega
    rwa [heq] at htotals
  · rw [hburned.supplyCap]
    have hcapped := h.capped
    omega
  · rw [hburned.supplyCap]
    exact h.bounded

theorem Sound.minted (h : Sound st) (hminted : Minted st st' recipient amount) : Sound st' := by
  refine ⟨?_, ?_, ?_⟩
  · rw [hminted.balances, hminted.totalSupply]
    exact totals_credit h.totals
  · rw [hminted.totalSupply, hminted.supplyCap]
    exact hminted.capped
  · rw [hminted.supplyCap]
    exact h.bounded

theorem Sound.same (h : Sound st) (hbalances : st'.balances = st.balances)
    (hsupply : st'.totalSupply = st.totalSupply) (hcap : st'.supplyCap = st.supplyCap) :
    Sound st' := by
  refine ⟨?_, ?_, ?_⟩
  · rw [hbalances, hsupply]
    exact h.totals
  · rw [hsupply, hcap]
    exact h.capped
  · rw [hcap]
    exact h.bounded

theorem Sound.effect {payer : Address → Prop} (h : Sound st) (heffect : FundsEffect payer st st') :
    Sound st' := by
  cases heffect with
  | same same => exact h.same same.balances same.totalSupply same.supplyCap
  | moved sender recipient amount pays moved => exact h.moved moved
  | burned sender amount pays burned => exact h.burned burned
  | minted recipient amount minted => exact h.minted minted
  | capped balances allowances totalSupply covers bounded =>
    refine ⟨?_, ?_, bounded⟩
    · rw [balances, totalSupply]
      exact h.totals
    · rw [totalSupply]
      rcases covers with hcovers | hmax
      · exact hcovers
      · rw [hmax]
        exact Nat.le_trans h.capped h.bounded

/-! ## Increments do not overflow -/

/-- The error of an increment that overflows. -/
def CapError (e : Error) : Prop := e = .tip20 .supplyCapExceeded

variable {ctx : Context} {token holder : Address} {e : Error}

theorem incrementBalance_error {st₁ : TokenState}
    (hfits : st.balances account + amount ≤ u128Max) :
    incrementBalance account amount st ≠ .error e st₁ := by
  intro herror
  rcases bind_error.mp herror with hget | ⟨read, t, hget, herror⟩
  · exact nomatch hget
  · obtain ⟨rfl, rfl⟩ := get_ok.mp hget
    rw [checkedAdd256_eq_some.mpr ⟨rfl, hfits.trans (by decide)⟩] at herror
    exact nomatch herror

/-- The credit after a debit. -/
theorem Sound.fits_moved (h : Sound st) (henough : amount ≤ st.balances sender) :
    debit st.balances sender amount recipient + amount ≤ u128Max := by
  have htotals := @totals_credit recipient amount _ _ (totals_debit h.totals henough)
  have hle := htotals.le recipient
  have hsender := h.balance_le sender
  have hcapped := h.capped
  have hbounded := h.bounded
  simp only [credit, Function.update_self] at hle
  omega

/-! ### Steps that never raise the error -/

/-- A check that never raises the error. -/
def Calm {α : Type} (x : Except Error α) : Prop := ∀ e, x = .error e → ¬ CapError e

section Checks

variable {α β : Type}

theorem calm_ok (a : α) : Calm (.ok a) := fun _ h => nomatch h

theorem calm_check [Decidable condition] {error : Error} (h : ¬ CapError error) :
    Calm (check condition error) := by
  intro e herror
  unfold check at herror
  split at herror
  · exact nomatch herror
  · obtain rfl := Except.error.inj herror
    exact h

theorem calm_external (answer : Except ℕ α) : Calm (external answer) := by
  intro e herror
  cases answer with
  | ok a => exact nomatch herror
  | error selector =>
    obtain rfl := Except.error.inj herror
    exact nofun

theorem calm_bind {x : Except Error α} {f : α → Except Error β} (hx : Calm x)
    (hf : ∀ a, Calm (f a)) : Calm (x >>= f) := by
  intro e herror
  cases x with
  | ok a => exact hf a e herror
  | error e' =>
    obtain rfl := Except.error.inj herror
    exact hx e' rfl

theorem calm_ite [Decidable condition] {x y : Except Error α} (hx : Calm x) (hy : Calm y) :
    Calm (if condition then x else y) := by
  split
  · exact hx
  · exact hy

end Checks

theorem calm_checkNotPaused : Calm (checkNotPaused ctx token) := calm_check nofun

theorem calm_checkNotPausedT3 : Calm (checkNotPausedT3 ctx token) :=
  calm_ite calm_checkNotPaused (calm_ok _)

theorem calm_validate {dest : Recipient} : Calm dest.validate := calm_check nofun

theorem calm_ensureTransferAuthorized :
    Calm (ensureTransferAuthorized ctx token sender recipient) :=
  calm_bind (calm_bind (calm_external _) fun _ => calm_ite (calm_ok _)
    (calm_bind (calm_external _) fun _ => calm_ok _)) fun _ => calm_check nofun

theorem calm_ensureAuthorizedAs {role : AuthRole} :
    Calm (ensureAuthorizedAs ctx token account role) :=
  calm_bind (calm_external _) fun _ => calm_check nofun

theorem calm_resolveRecipient : Calm (resolveRecipient ctx account) := by
  refine calm_ite (calm_ok _) (calm_ite ?_ (calm_ok _))
  cases ctx.master (masterId account) with
  | none =>
    intro e herror
    obtain rfl := Except.error.inj herror
    exact nofun
  | some master => exact calm_ok _

theorem calm_resolve : Calm (Recipient.resolve ctx account) :=
  calm_bind calm_resolveRecipient fun _ => calm_ok _

theorem calm_checkReceivePolicy : Calm (checkReceivePolicy ctx token sender recipient) :=
  calm_ite (calm_ok _) (calm_bind (calm_external _) fun _ => calm_ite (calm_ok _)
    (calm_bind (calm_external _) fun _ => calm_ite (calm_ok _) (calm_ok _)))

theorem calm_ensureReceivePolicyAuthorized :
    Calm (ensureReceivePolicyAuthorized ctx token sender recipient) :=
  calm_bind calm_checkReceivePolicy fun _ => calm_check nofun

/-- A program that never raises the error. -/
abbrev Quiet {σ α : Type} (x : EStateM Error σ α) : Prop := Avoids CapError (fun _ => True) x

variable {α : Type} {x : EStateM Error σ α}

theorem Quiet.error (h : Quiet x) {s s' : σ} (herror : x s = .error e s') :
    ¬ CapError e :=
  Triple.error h trivial herror

theorem quiet_modify {f : σ → σ} : Quiet (modify f : EStateM Error σ PUnit) :=
  avoids_modify fun _ _ => trivial

/-- A change to a value that may be missing. -/
theorem quiet_update {value : Option α} {f : α → σ → σ} (h : ¬ CapError e) :
    Quiet (okOr value e >>= fun a => modify (f a) : EStateM Error σ PUnit) :=
  avoids_bind (avoids_okOr h) fun _ => quiet_modify

theorem quiet_fromExcept {x : Except Error α} (h : Calm x) :
    Quiet (fromExcept x : EStateM Error σ α) :=
  avoids_fromExcept h

theorem quiet_updateRewards : Quiet (updateRewards ctx holder) :=
  avoids_ite (fun _ => avoids_pure _) fun _ => avoids_get_bind fun _ _ =>
    avoids_bind (avoids_okOr nofun) fun _ => avoids_bind (quiet_modify)
      fun _ => avoids_pure _

theorem quiet_addOptedIn : Quiet (addOptedIn amount) :=
  avoids_get_bind fun _ _ => quiet_update nofun

theorem quiet_subOptedIn : Quiet (subOptedIn amount) :=
  avoids_get_bind fun _ _ => quiet_update nofun

theorem quiet_adjustOptedIn {fromDelegate toDelegate : Address} :
    Quiet (adjustOptedIn fromDelegate toDelegate amount) :=
  avoids_ite (fun _ => avoids_onlyIf fun _ => quiet_subOptedIn) fun _ =>
    avoids_onlyIf fun _ => quiet_addOptedIn

theorem quiet_handleRewardsOnTransfer :
    Quiet (handleRewardsOnTransfer ctx sender recipient amount) :=
  avoids_bind quiet_updateRewards fun _ => avoids_bind quiet_updateRewards fun _ =>
    quiet_adjustOptedIn

theorem quiet_handleRewardsOnMint : Quiet (handleRewardsOnMint ctx recipient amount) :=
  avoids_bind quiet_updateRewards fun _ => avoids_onlyIf fun _ => quiet_addOptedIn

theorem quiet_senderBalance : Quiet (senderBalance ctx token sender amount) :=
  avoids_ite (fun _ => avoids_pure _) fun _ => avoids_get_bind fun _ _ =>
    avoids_require_bind nofun fun _ => avoids_pure _

theorem quiet_decrementBalance : Quiet (decrementBalance token sender amount) :=
  avoids_get_bind fun _ _ => quiet_update nofun

theorem quiet_debitSender {balance : Option ℕ} :
    Quiet (debitSender token sender amount balance) := by
  cases balance with
  | none => exact quiet_decrementBalance
  | some balance => exact quiet_update nofun

theorem quiet_reduceSupply : Quiet (reduceSupply token amount) :=
  avoids_get_bind fun _ _ => quiet_update nofun

/-! ### Operations from a sound state -/

/-- From a state in which `P` holds, the program does not raise the error. -/
abbrev QuietFrom {σ α : Type} (P : σ → Prop) (x : EStateM Error σ α) : Prop :=
  Triple P x (fun _ _ => True) (fun e _ => ¬ CapError e)

variable {P : σ → Prop} {β : Type} {f : α → EStateM Error σ β}

theorem QuietFrom.bind_quiet (hx : QuietFrom P x) (hf : ∀ a, Quiet (f a)) :
    QuietFrom P (x >>= f) :=
  triple_bind hx hf

theorem quietFrom_bind (hx : Avoids CapError P x) (hf : ∀ a, QuietFrom P (f a)) :
    QuietFrom P (x >>= f) :=
  triple_bind hx hf

theorem quietFrom_check {x : Except Error α} (hx : Calm x) (hf : ∀ a, QuietFrom P (f a)) :
    QuietFrom P (fromExcept x >>= f) :=
  quietFrom_bind (avoids_fromExcept hx) hf

theorem quietFrom_get_bind {f : σ → EStateM Error σ α} (h : ∀ s, QuietFrom P (f s)) :
    QuietFrom P (get >>= f) :=
  fun s hs => h s s hs

theorem quietFrom_require [Decidable condition] {error : Error} {f : Unit → EStateM Error σ β}
    (herror : ¬ CapError error) (hf : ∀ a, QuietFrom P (f a)) :
    QuietFrom P (require condition error >>= f) :=
  quietFrom_bind (avoids_require herror) hf

theorem quietFrom_of_quiet (h : Quiet x) :
    QuietFrom P x :=
  Triple.consequence h (fun _ _ => trivial) (fun _ _ _ => trivial) fun _ _ he => he

/-- The credit at the end of a transfer fits. -/
theorem innerTransfer_quiet {dest : Recipient} :
    QuietFrom Sound (innerTransfer ctx token sender dest amount) := by
  intro st hst
  cases hrun : innerTransfer ctx token sender dest amount st with
  | ok _ _ => trivial
  | error e st' =>
    rcases bind_error.mp hrun with herror | ⟨balance, t₁, hbalance, hrun⟩
    · exact quiet_senderBalance.error herror
    obtain ⟨rfl, hread⟩ := senderBalance_ok hbalance
    rcases bind_error.mp hrun with herror | ⟨_, t₂, hrewards, hrun⟩
    · exact quiet_handleRewardsOnTransfer.error herror
    have hsame := keeps_handleRewardsOnTransfer.ok .refl hrewards
    rw [← hsame.balances] at hread
    rcases bind_error.mp hrun with herror | ⟨_, t₃, hdebit, hrun⟩
    · exact quiet_debitSender.error herror
    have hdebited := debitSender_ok hread hdebit
    have hfits : t₃.balances dest.target + amount ≤ u128Max := by
      rw [hdebited.balances, hsame.balances]
      exact hst.fits_moved (hsame.balances ▸ hdebited.enough)
    unfold onlyIf at hrun
    split at hrun
    · exact absurd hrun (incrementBalance_error hfits)
    · exact nomatch hrun

theorem innerMint_quiet {dest : Recipient} (hst : Sound st)
    (hcap : st.totalSupply + amount ≤ st.supplyCap) :
    QuietFrom (· = st) (innerMint ctx dest st.totalSupply amount) := by
  rintro _ rfl
  rename_i st
  cases hrun : innerMint ctx dest st.totalSupply amount st with
  | ok _ _ => trivial
  | error e st' =>
    rcases bind_error.mp hrun with herror | ⟨newSupply, t, hadd, hrun⟩
    · exact Quiet.error (avoids_okOr (by nofun)) herror
    obtain ⟨hnew, rfl⟩ := okOr_ok.mp hadd
    obtain ⟨rfl, -⟩ := checkedAdd256_eq_some.mp hnew
    rcases bind_error.mp hrun with herror | ⟨read, t, hget, hrun⟩
    · exact nomatch herror
    obtain ⟨rfl, rfl⟩ := get_ok.mp hget
    rcases bind_error.mp hrun with herror | ⟨_, t₁, hrequire, hrun⟩
    · unfold require at herror
      rw [if_pos hcap] at herror
      exact nomatch herror
    obtain ⟨-, rfl⟩ := require_ok.mp hrequire
    rcases bind_error.mp hrun with herror | ⟨_, t₂, hrewards, hrun⟩
    · exact quiet_handleRewardsOnMint.error herror
    have hsame := keeps_handleRewardsOnMint.ok .refl hrewards
    rcases bind_error.mp hrun with herror | ⟨_, t₃, hsupply, hrun⟩
    · exact nomatch herror
    obtain rfl := modify_ok.mp hsupply
    refine absurd hrun (incrementBalance_error ?_)
    rw [hsame.balances]
    have hbalance := hst.balance_le dest.target
    have hbounded := hst.bounded
    omega

theorem Quiet.keeping (hquiet : Quiet x) (hkeeps : Keeps P x) :
    Avoids CapError P x := by
  intro s hs
  cases hrun : x s with
  | ok a s' => exact hkeeps.ok hs hrun
  | error e s' => exact hquiet.error hrun

/-- The credit after the debit of a fee fits. -/
theorem moveFee_quiet (hst : Sound st) :
    QuietFrom (SameFunds st) (decrementBalance token sender amount >>= fun _ =>
      incrementBalance recipient amount) := by
  intro t hsame
  cases hrun : (decrementBalance token sender amount >>= fun _ =>
      incrementBalance recipient amount) t with
  | ok _ _ => trivial
  | error e st' =>
    rcases bind_error.mp hrun with herror | ⟨_, t₁, hdebit, hrun⟩
    · exact quiet_decrementBalance.error herror
    obtain ⟨henough, rfl⟩ := decrementBalance_ok hdebit
    rw [hsame.balances] at henough
    refine absurd hrun (incrementBalance_error ?_)
    have hfits := @Sound.fits_moved st sender recipient amount hst henough
    simpa only [TokenState.setBalance, hsame.balances, debit] using hfits

/-- A change of rewards before the move of a fee. -/
theorem feeTransfer_quiet {adjust : Address → TokenM Unit}
    (hquiet : ∀ delegate, Quiet (adjust delegate))
    (hkeeps : ∀ st delegate, Keeps (SameFunds st) (adjust delegate)) :
    QuietFrom Sound (updateRewards ctx holder >>= fun delegate => adjust delegate >>= fun _ =>
      decrementBalance token sender amount >>= fun _ => incrementBalance recipient amount) := by
  intro st hst
  refine quietFrom_bind (quiet_updateRewards.keeping keeps_updateRewards) (fun delegate => ?_) st
    .refl
  exact quietFrom_bind ((hquiet delegate).keeping (hkeeps st delegate)) fun _ => moveFee_quiet hst

theorem burnBlocked_quiet {owner : Address} {checkProtected : Bool} :
    QuietFrom Sound (burnBlocked ctx token sender owner amount checkProtected) :=
  quietFrom_check calm_checkNotPausedT3 fun _ => quietFrom_check (calm_check nofun) fun _ =>
    quietFrom_require nofun fun _ => quietFrom_check (calm_external _) fun _ =>
    quietFrom_require nofun fun _ => innerTransfer_quiet.bind_quiet fun _ => quiet_reduceSupply

theorem releaseBlockedFunds_quiet {originator receiver authority : Address} {mode : RecoveryMode} :
    QuietFrom Sound
      (releaseBlockedFunds ctx token originator receiver dest amount mode authority) := by
  refine quietFrom_check calm_checkNotPaused fun _ => quietFrom_check calm_resolve
    fun destination => quietFrom_check calm_validate fun _ => quietFrom_check ?_ fun _ =>
    innerTransfer_quiet
  refine calm_ite ?_ calm_ensureAuthorizedAs
  refine calm_bind calm_ensureTransferAuthorized fun _ =>
    calm_bind calm_ensureReceivePolicyAuthorized fun _ => ?_
  cases mode.spendingAccount authority with
  | none => exact calm_ok _
  | some account => exact calm_external _

/-- What is left of the error: a cap that does not fit. -/
def TokenOp.exceedsCap : TokenOp → Prop
  | .setSupplyCap _ newSupplyCap => u128Max < newSupplyCap
  | _ => False

theorem TokenOp.quiet {op : TokenOp} (hcap : ¬ op.exceedsCap) :
    QuietFrom Sound (op.run ctx token) := by
  cases op with
  | create => exact quietFrom_of_quiet (quiet_modify)
  | burn sender amount =>
    exact quietFrom_check calm_checkNotPausedT3 fun _ => quietFrom_check (calm_check nofun)
      fun _ => innerTransfer_quiet.bind_quiet fun _ => quiet_reduceSupply
  | burnBlocked sender owner amount => exact burnBlocked_quiet
  | channelReserveTransfer sender dest amount receivePolicySender =>
    exact quietFrom_require nofun fun _ => quietFrom_check calm_checkNotPaused fun _ =>
      quietFrom_check calm_validate fun _ => quietFrom_check (calm_external _) fun _ =>
      quietFrom_require nofun fun _ => quietFrom_check calm_ensureReceivePolicyAuthorized
      fun _ => innerTransfer_quiet
  | transferFeePreTx sender amount =>
    exact quietFrom_check calm_checkNotPaused fun _ => quietFrom_check (calm_external _) fun _ =>
      feeTransfer_quiet (fun _ => avoids_onlyIf fun _ => quiet_subOptedIn) fun _ _ =>
      keeps_onlyIf fun _ => keeps_subOptedIn
  | transferFeePostTx dest refund =>
    refine triple_onlyIf (fun _ => ?_) fun _ _ _ => trivial
    exact quietFrom_check (calm_ite (calm_external _) (calm_ok _)) fun _ =>
      feeTransfer_quiet (fun _ => avoids_onlyIf fun _ => quiet_addOptedIn) fun _ _ =>
      keeps_onlyIf fun _ => keeps_addOptedIn
  | distributeReward sender amount =>
    refine triple_onlyIf (fun _ => ?_) fun _ _ _ => trivial
    refine quietFrom_check calm_checkNotPaused fun _ => quietFrom_require nofun fun _ =>
      quietFrom_check calm_ensureTransferAuthorized fun _ => quietFrom_check (calm_external _)
      fun _ => innerTransfer_quiet.bind_quiet fun _ => ?_
    exact avoids_get_bind fun _ _ => avoids_require_bind nofun fun _ =>
      avoids_bind (avoids_okOr nofun) fun _ => avoids_bind (avoids_okOr nofun) fun _ =>
      quiet_modify
  | setRewardRecipient sender recipient =>
    refine quietFrom_of_quiet (avoids_onlyIf fun _ => ?_)
    exact avoids_bind (avoids_fromExcept calm_checkNotPaused) fun _ =>
      avoids_require_bind nofun fun _ => avoids_bind
      (avoids_fromExcept (calm_ite calm_ensureTransferAuthorized (calm_ok _))) fun _ =>
      avoids_bind quiet_updateRewards fun _ => avoids_get_bind fun _ _ =>
      avoids_bind quiet_adjustOptedIn fun _ => quiet_modify
  | claimRewards sender =>
    refine quietFrom_of_quiet ?_
    exact avoids_bind (avoids_fromExcept calm_checkNotPaused) fun _ =>
      avoids_bind (avoids_fromExcept calm_ensureTransferAuthorized) fun _ =>
      avoids_bind quiet_updateRewards fun _ => avoids_get_bind fun _ _ =>
      avoids_bind (quiet_modify) fun _ => avoids_onlyIf fun _ =>
      avoids_bind (quiet_modify) fun _ => avoids_get_bind fun _ _ =>
      avoids_bind (avoids_okOr nofun) fun _ => avoids_bind (quiet_modify)
      fun _ => avoids_onlyIf fun _ => quiet_addOptedIn
  | setSupplyCap sender newSupplyCap =>
    refine quietFrom_of_quiet ?_
    refine avoids_bind (avoids_fromExcept (calm_check nofun)) fun _ =>
      avoids_get_bind fun _ _ => avoids_require_bind nofun fun _ => ?_
    have hfits : newSupplyCap ≤ u128Max := Nat.le_of_not_lt hcap
    unfold require
    rw [if_pos hfits]
    exact avoids_bind (avoids_pure _) fun _ => quiet_modify
  | approve sender spender amount =>
    exact quietFrom_of_quiet (avoids_get_bind fun _ _ =>
      avoids_bind (avoids_fromExcept (calm_external _)) fun _ => quiet_modify)
  | permit owner spender value deadline =>
    exact quietFrom_of_quiet (avoids_require_bind nofun fun _ =>
      avoids_require_bind nofun fun _ => quiet_modify)

/-! ## Worlds -/

/-- Every token is sound. -/
def SoundWorld (w : World) : Prop := ∀ token, Sound (w.tokens token)

variable {w w' : World}

theorem SoundWorld.setToken (h : SoundWorld w) (hst : Sound st) :
    SoundWorld (w.setToken token st) := by
  intro other
  by_cases heq : other = token
  · rw [heq, setToken_self]
    exact hst
  · rw [setToken_other heq]
    exact h other

theorem Sound.allowance {owner : Address → Prop} (h : Sound st)
    (heffect : AllowanceEffect owner st st') : Sound st' :=
  h.same heffect.balances heffect.totalSupply heffect.supplyCap

section Steps

variable [ReceiptHash]

theorem SoundWorld.step {call : Call} {result : ℕ} (h : SoundWorld w)
    (htoken : isTip20 call.tokenAddress = true) (hstep : CallStep ctx w call result w') :
    SoundWorld w' := by
  cases hstep with
  | operation run =>
    refine h.setToken ?_
    rcases TokenOp.effect (isTip20_ne_zero htoken) run with heffect | heffect
    · exact (h _).effect heffect
    · exact (h _).allowance heffect
  | delivered payment valid direct spent transfer =>
    exact h.setToken (((h _).allowance (spend_ok spent).1).moved
      (innerTransfer_moved valid transfer))
  | diverted payment resolved spent policy transfer =>
    have hst := ((h _).allowance (spend_ok spent).1).moved
      (innerTransfer_moved (by decide) transfer)
    exact h.setToken hst
  | minted direct mint => exact h.setToken ((h _).minted (innerMint_ok mint))
  | mintDiverted resolved policy mint =>
    have hst := (h _).minted (innerMint_ok mint)
    exact h.setToken hst
  | claimed authority other unclaimed release =>
    obtain ⟨destination, -, hmoved⟩ := releaseBlockedFunds_ok release
    have hst := (h _).moved hmoved
    exact h.setToken hst
  | receiptBurned unclaimed burn =>
    have hst := (h _).burned (burnBlocked_ok burn).2
    exact h.setToken hst

/-! ### Calls from a sound world -/

variable {x : TokenM α}

omit [ReceiptHash] in
theorem onToken_quiet_at (hx : QuietFrom (· = w.tokens token) x) :
    QuietFrom (· = w) (onToken token x) := by
  rintro _ rfl
  rename_i w
  have hrun := hx (w.tokens token) rfl
  unfold onToken
  cases hx : x (w.tokens token) with
  | ok a st => trivial
  | error e st =>
    rw [hx] at hrun
    exact hrun

omit [ReceiptHash] in
theorem onToken_quiet (hx : QuietFrom Sound x) :
    QuietFrom SoundWorld (onToken token x) := by
  intro w hw
  refine onToken_quiet_at ?_ w rfl
  rintro _ rfl
  exact hx _ (hw token)

theorem storeBlocked_quiet {recipient : Recipient} {recovery : Address} {reason : BlockedReason}
    {kind : InboundKind} :
    Quiet (storeBlocked ctx token sender recipient recovery amount reason kind memo) :=
  avoids_get_bind fun _ _ => avoids_require_bind nofun fun _ => quiet_modify

variable {spender : Option Address}

omit [ReceiptHash] in
theorem spend_avoids :
    Avoids CapError Sound (spend ctx token sender amount spender) := by
  intro st hst
  cases hrun : spend ctx token sender amount spender st with
  | ok u st' => exact hst.allowance (spend_ok hrun).1
  | error e st' =>
    have hquiet : Quiet (spend ctx token sender amount spender) := by
      cases spender with
      | none => exact quiet_fromExcept (calm_external _)
      | some spender =>
        exact avoids_get_bind fun _ _ => avoids_require_bind nofun fun _ =>
          avoids_onlyIf fun _ => quiet_modify
    exact hquiet.error hrun

omit [ReceiptHash] in
theorem onToken_avoids (hx : Avoids CapError Sound x) :
    Avoids CapError SoundWorld (onToken token x) := by
  intro w hw
  have hrun := hx (w.tokens token) (hw token)
  unfold onToken
  cases hx : x (w.tokens token) with
  | ok a st =>
    rw [hx] at hrun
    exact hw.setToken hrun
  | error e st =>
    rw [hx] at hrun
    exact hrun

/-- The passage of a payment keeps the world sound, or blocks the payment quietly. -/
theorem validateInbound_avoids {recipient : Recipient} :
    Avoids CapError SoundWorld
      (validateInboundOrBlock ctx token sender recipient amount none memo) := by
  refine avoids_ite (fun _ => avoids_pure _) fun _ => avoids_require_bind nofun fun _ =>
    avoids_bind (avoids_fromExcept calm_checkReceivePolicy) fun blocked => ?_
  cases blocked with
  | none => exact avoids_pure _
  | some answer =>
    refine avoids_bind (onToken_avoids ?_) fun kind =>
      avoids_bind ?_ fun _ => avoids_pure _
    · intro st hst
      cases hrun : blockFunds ctx token sender amount none st with
      | ok kind st' =>
        obtain ⟨_, st₁, htransfer, hkind⟩ := bind_ok.mp hrun
        obtain ⟨rfl, rfl⟩ := pure_ok.mp hkind
        exact hst.moved (innerTransfer_moved (by decide) htransfer)
      | error e st' =>
        exact (innerTransfer_quiet.bind_quiet fun _ => avoids_pure _).error hst hrun
    · intro w hw
      cases hrun : storeBlocked ctx token sender recipient answer.2 amount answer.1 kind memo w
        with
      | ok u w' =>
        obtain rfl := storeBlocked_ok hrun
        exact hw
      | error e w' => exact storeBlocked_quiet.error hrun

theorem transferWith_quiet :
    QuietFrom SoundWorld (transferWith ctx token spender sender dest amount memo) := by
  refine quietFrom_bind ?_ fun validated => triple_onlyIf (fun _ =>
    onToken_quiet innerTransfer_quiet) fun _ _ _ => trivial
  exact avoids_bind (avoids_fromExcept calm_resolve) fun _ =>
    avoids_bind (avoids_fromExcept calm_checkNotPaused) fun _ =>
    avoids_bind (avoids_fromExcept calm_validate) fun _ =>
    avoids_bind (avoids_fromExcept calm_ensureTransferAuthorized) fun _ =>
    avoids_bind (onToken_avoids spend_avoids) fun _ => avoids_bind validateInbound_avoids fun _ =>
    avoids_pure _

/-- A mint within the cap: nothing has changed when its funds are credited. -/
theorem mint_quiet (hw : SoundWorld w)
    (hcap : (w.tokens token).totalSupply + amount ≤ (w.tokens token).supplyCap) :
    QuietFrom (· = w) (mint ctx token sender dest amount memo) := by
  have hmint : ∀ recipient : Recipient, QuietFrom (· = w)
      (onToken token (innerMint ctx recipient (w.tokens token).totalSupply amount)) :=
    fun _ => onToken_quiet_at (innerMint_quiet (hw token) hcap)
  refine quietFrom_check calm_resolve fun recipient => quietFrom_check (calm_check nofun) fun _ =>
    triple_get_bind ?_
  rintro _ rfl
  refine quietFrom_check (calm_ite (calm_bind calm_checkNotPaused fun _ => calm_validate)
    (calm_ok _)) fun _ => quietFrom_check calm_ensureAuthorizedAs fun _ => ?_
  rintro _ rfl
  rename_i w
  cases hrun : (validateInboundOrBlock ctx token sender recipient amount
      (some (w.tokens token).totalSupply) memo >>= fun blocked => onlyIf (blocked = false)
      (onToken token (innerMint ctx recipient (w.tokens token).totalSupply amount))) w with
  | ok _ _ => trivial
  | error e w' =>
    rcases bind_error.mp hrun with herror | ⟨blocked, w₁, hinbound, herror⟩
    · unfold validateInboundOrBlock at herror
      split at herror
      · cases herror
      · rcases bind_error.mp herror with herror | ⟨_, w₂, hrequire, herror⟩
        · refine Quiet.error (avoids_require ?_) herror
          rintro ⟨⟩
        obtain ⟨-, rfl⟩ := require_ok.mp hrequire
        rcases bind_error.mp herror with herror | ⟨answer, w₃, hpolicy, herror⟩
        · exact Quiet.error (quiet_fromExcept calm_checkReceivePolicy) herror
        obtain ⟨-, rfl⟩ := fromExcept_ok.mp hpolicy
        cases answer with
        | none => cases herror
        | some answer =>
          rcases bind_error.mp herror with herror | ⟨kind, w₄, -, herror⟩
          · refine (onToken_quiet_at (x := blockFunds ctx token sender amount
              (some _)) ?_).error rfl herror
            exact (innerMint_quiet (hw token) hcap).bind_quiet fun _ => avoids_pure _
          · rcases bind_error.mp herror with herror | ⟨_, w₅, -, herror⟩
            · exact storeBlocked_quiet.error herror
            · cases herror
    · cases validateInboundOrBlock_ok hinbound with
      | allowed direct =>
        exact (hmint recipient).error rfl herror
      | blocked policy funds => cases herror

/-- What is left of the error: a mint above the cap, or a cap that does not fit. -/
def Call.exceedsCap (w : World) : Call → Prop
  | .operation _ op => op.exceedsCap
  | .mint token _ _ amount _ =>
    (w.tokens token).supplyCap < (w.tokens token).totalSupply + amount
  | _ => False

omit [ReceiptHash] in
theorem calm_resolveReceipt : Calm (resolveReceipt ctx receipt) := by
  intro e herror
  unfold resolveReceipt at herror
  split at herror
  · exact nomatch herror
  · obtain rfl := Except.error.inj herror
    exact nofun

theorem claim_quiet :
    QuietFrom SoundWorld (claim ctx sender dest receipt) := by
  refine quietFrom_require nofun fun _ => quietFrom_check calm_resolveReceipt fun receiver =>
    quietFrom_require nofun fun _ => quietFrom_get_bind fun w => ?_
  exact quietFrom_require nofun fun _ => quietFrom_bind (avoids_modify fun _ h => h) fun _ =>
    quietFrom_check (calm_check nofun) fun _ =>
    (onToken_quiet releaseBlockedFunds_quiet).bind_quiet fun _ => avoids_pure _

theorem burnBlockedReceipt_quiet :
    QuietFrom SoundWorld (burnBlockedReceipt ctx sender receipt) := by
  refine quietFrom_check calm_resolveReceipt fun receiver => quietFrom_get_bind fun w => ?_
  exact quietFrom_require nofun fun _ => quietFrom_check (calm_check nofun) fun _ =>
    (onToken_quiet burnBlocked_quiet).bind_quiet fun _ =>
    avoids_bind (quiet_modify) fun _ => avoids_pure _

/-- From a sound world no increment overflows. -/
theorem Call.quiet {call : Call} (hw : SoundWorld w) (hcap : ¬ call.exceedsCap w)
    (herror : call.run ctx w = .error e w') : ¬ CapError e := by
  cases call with
  | operation token op =>
    exact ((onToken_quiet (TokenOp.quiet hcap)).bind_quiet fun _ => avoids_pure _).error hw herror
  | mint token sender dest amount memo =>
    exact ((mint_quiet hw (Nat.le_of_not_lt hcap)).bind_quiet fun _ => avoids_pure _).error rfl
      herror
  | transfer | transferFrom =>
    exact (transferWith_quiet.bind_quiet fun _ => avoids_pure _).error hw herror
  | systemTransferFrom token caller owner amount =>
    exact ((quietFrom_require (by nofun) fun _ => transferWith_quiet).bind_quiet
      fun _ => avoids_pure _).error hw herror
  | claim sender dest receipt => exact claim_quiet.error hw herror
  | burnBlockedReceipt sender receipt => exact burnBlockedReceipt_quiet.error hw herror

/-! ## Runs -/

theorem SoundWorld.run (hw : SoundWorld w) (run : WorldRun OnTokens w w') : SoundWorld w' := by
  induction run with
  | refl => exact hw
  | tail _ step ih =>
    obtain ⟨ctx, call, result, hallowed, hcall⟩ := step
    exact ih.step hallowed (Call.step hcall)

/-- In every state that calls reach from empty storage, the balances of every token sum to
its supply, which is within its cap, which fits a `u128`.  Hence what one account has can be
credited to any other, and a call fails with the error of an overflowing increment only if it
mints above the cap or sets a cap that does not fit. -/
theorem reachable_supply (run : WorldRun OnTokens .empty w) :
    (∀ token, Totals (w.tokens token).balances (w.tokens token).totalSupply ∧
      (w.tokens token).totalSupply ≤ (w.tokens token).supplyCap ∧
      (w.tokens token).supplyCap ≤ 2 ^ 128 - 1 ∧
      ∀ sender recipient amount, amount ≤ (w.tokens token).balances sender →
        debit (w.tokens token).balances sender amount recipient + amount ≤ 2 ^ 128 - 1) ∧
      ∀ (ctx : Context) (call : Call) (w' : World),
        call.run ctx w = .error (.tip20 .supplyCapExceeded) w' → call.exceedsCap w := by
  have hw := SoundWorld.run (fun _ => Sound.empty) run
  refine ⟨fun token => ⟨(hw token).totals, (hw token).capped, (hw token).bounded,
    fun sender recipient amount henough => (hw token).fits_moved henough⟩, ?_⟩
  intro ctx call w' herror
  by_contra hcap
  exact Call.quiet hw hcap herror rfl

end Steps

/-- A payment to an account that blocks it, and the claim of its receipt. -/
theorem reachable_supply_claimed :
    letI := ReceiptHash.paired
    ∃ w, WorldRun OnTokens .empty w ∧ (w.tokens pathUsdAddress).balances 9 = 30 ∧
      Totals (w.tokens pathUsdAddress).balances (w.tokens pathUsdAddress).totalSupply := by
  let := ReceiptHash.paired
  have hreturned : returned ((do
      runCalls (.permissive .T6 (· == 8)) blockedSample
      let w ← get
      require ((w.tokens pathUsdAddress).balances 9 = 30) .underOverflow : WorldM Unit)
      .empty) = true := by
    decide +kernel
  obtain ⟨_, w, hrun⟩ := returned_iff.mp hreturned
  obtain ⟨_, w₁, hcalls, hrun⟩ := bind_ok.mp hrun
  obtain ⟨hpaid, rfl⟩ := require_ok.mp hrun
  have hreach : WorldRun OnTokens .empty w₁ := worldRun_of_runCalls (by decide) hcalls
  exact ⟨w₁, hreach, hpaid, ((reachable_supply hreach).1 pathUsdAddress).1⟩

end Monotempo.Tip20
