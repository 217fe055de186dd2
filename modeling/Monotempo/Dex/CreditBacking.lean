/-
  The storage credits of users are backed.

  The DEX address owns one physical balance of credits, and every user a counter
  of logical ones.  Opening a counter spends one physical credit, so a live
  counter `c` is backed by `c - 1`.  During a call some minted credits belong to
  no counter yet: they are pending.  Every program of the DEX either leaves the
  backing alone or turns pending credits into a counter, and in a backed state
  neither of the two fatal bookkeeping errors can be raised.
-/
import Monotempo.Dex.Invariant

set_option autoImplicit false

namespace Monotempo.Dex

open Chain Foundation Function

variable {order : Order} {bookKey : B256} {amount orderId bookId limit : ℕ} {isBid : Bool}
  {token sender taker tokenIn tokenOut base : Address} {tick : ℤ} {level : TickLevel}
  {deltas : StorageCreditDeltas} {book : Orderbook}

/-! ## The invariant -/

/-- The fatal errors of the credit bookkeeping. -/
def Error.isCreditFault : Error → Bool
  | .fatal (.spendMismatch _) => true
  | .fatal (.consumedCredits _ _) => true
  | _ => false

/-- The DEX is in `Preserve` mode, and its credits cover the counters of the users
besides `pending` credits that are on no counter yet. -/
structure Credited (pending : ℕ) (s : DexState) : Prop where
  preserve : s.credits.mode = .preserve
  backed : Backed (fun user => s.storageCredits user - 1) ((s.credits.balance : ℤ) - pending)

/-- The program keeps the backing and raises no credit fault. -/
def KeepsCredit {α : Type} (pending : ℕ) (x : DexM α) : Prop :=
  Avoids (fun e => e.isCreditFault = true) (Credited pending) x

/-- From `pending` credits without a counter to those that `left` says, without a credit
fault. -/
def MovesCredit {α : Type} (pending : ℕ) (x : DexM α) (left : α → ℕ) : Prop :=
  Triple (Credited pending) x (fun a => Credited (left a))
    (fun e _ => ¬ e.isCreditFault = true)

section Rules

variable {α β : Type} {pending : ℕ} {x : DexM α} {f : α → DexM β} {left : β → ℕ}

theorem movesCredit_bind {mid : α → ℕ} (hx : MovesCredit pending x mid)
    (hf : ∀ a, MovesCredit (mid a) (f a) left) : MovesCredit pending (x >>= f) left :=
  triple_bind hx hf

theorem movesCredit_pure {b : β} (h : pending = left b) :
    MovesCredit pending (pure b) left :=
  triple_pure fun s hs => by rw [← h]; exact hs

end Rules

namespace Credited

variable {pending slots : ℕ} {s : DexState} {spec : TempoHardfork} {user : Address}

section Counters

variable (h : Credited pending s)

include h

variable {s' : DexState}

theorem congr (hcredits : s'.credits = s.credits) (hstorage : s'.storageCredits = s.storageCredits)
    : Credited pending s' where
  preserve := by rw [hcredits]; exact h.preserve
  backed := by rw [hcredits, hstorage]; exact h.backed

theorem pending_le : pending ≤ s.credits.balance := by
  have hempty := h.backed ∅
  omega

theorem account_preserve (spec : TempoHardfork) (writes : List (ℕ × ℕ)) :
    (s.account spec writes).mode = .preserve := by
  unfold DexState.account
  split
  · rw [CreditAccount.sstoreAll_mode, h.preserve]
  · exact h.preserve

theorem balance_le_account (spec : TempoHardfork) (writes : List (ℕ × ℕ)) :
    s.credits.balance ≤ (s.account spec writes).balance := by
  unfold DexState.account
  split
  · exact CreditAccount.balance_le_sstoreAll_of_preserve writes h.preserve
  · exact Nat.le_refl _

theorem write (core : DexCore) (writes : List (ℕ × ℕ)) :
    Credited pending (s.write spec core writes) where
  preserve := h.account_preserve spec writes
  backed := h.backed.mono (by
    have hle := h.balance_le_account spec writes
    show (s.credits.balance : ℤ) - pending ≤ ((s.account spec writes).balance : ℤ) - pending
    omega)

/-- What a write minted can be set aside. -/
theorem write_minted (core : DexCore) (writes : List (ℕ × ℕ)) :
    Credited (pending + ((s.write spec core writes).credits.balance - s.credits.balance))
      (s.write spec core writes) where
  preserve := h.account_preserve spec writes
  backed := h.backed.mono (by
    have hle : s.credits.balance ≤ (s.write spec core writes).credits.balance :=
      h.balance_le_account spec writes
    omega)

theorem setCounter {pending' counter : ℕ} (hmode : s'.credits.mode = .preserve)
    (hcounter : s'.storageCredits = update s.storageCredits user counter)
    (hcover : s.credits.balance + (counter - 1) + pending' ≤
      s'.credits.balance + (s.storageCredits user - 1) + pending) : Credited pending' s' where
  preserve := hmode
  backed := by
    refine h.backed.change user (fun other hother => ?_) ?_
    · rw [hcounter, update_of_ne hother]
    · simp only [hcounter, update_self]
      omega

end Counters

/-- Credits added to a counter come off what is pending. -/
theorem grown (h : Credited (pending + slots) s) :
    Credited pending (s.writeStorageCredits spec user (s.storageCredits user + slots)) := by
  refine h.setCounter (h.account_preserve spec _) rfl ?_
  have hle := h.balance_le_account spec [(s.storageCredits user, s.storageCredits user + slots)]
  show _ ≤ (s.account spec [(s.storageCredits user, s.storageCredits user + slots)]).balance +
    _ + _
  omega

/-- Clearing a counter makes all of it pending: the cleared slot mints the one that
opening it had spent. -/
theorem cleared (h : Credited pending s) (hspec : spec.isT7 = true)
    (hlive : s.storageCredits user ≠ 0) :
    Credited (pending + s.storageCredits user) (s.writeStorageCredits spec user 0) := by
  refine h.setCounter (h.account_preserve spec _) rfl ?_
  have hminted : (s.account spec [(s.storageCredits user, 0)]).balance =
      s.credits.balance + 1 := by
    unfold DexState.account
    rw [if_pos hspec]
    exact CreditAccount.sstore_clear hlive
  show _ ≤ (s.account spec [(s.storageCredits user, 0)]).balance + _ + _
  omega

/-- Opening a counter under a budget of one spends exactly one pending credit. -/
theorem opened (h : Credited (pending + slots) s) (hspec : spec.isT7 = true)
    (hslots : slots ≠ 0) (hunused : s.storageCredits user = 0) :
    let t := ({ s with credits := s.credits.setBudget 1 } : DexState).writeStorageCredits spec
      user slots
    t.credits.balance + 1 = s.credits.balance ∧
      Credited pending { t with credits := t.credits.resetToPreserve } := by
  intro t
  have hpending := h.pending_le
  have hspent : t.credits.balance = s.credits.balance - 1 := by
    show (DexState.account _ spec _).balance = _
    unfold DexState.account
    rw [if_pos hspec]
    rw [hunused]
    exact CreditAccount.sstore_create_direct hslots rfl (by show 0 < s.credits.balance; omega)
      Nat.one_pos
  refine ⟨by omega, h.setCounter rfl rfl ?_⟩
  show _ ≤ t.credits.balance + _ + _
  omega

/-- A write of a few slots under a budget spends at most the budget. -/
theorem spent (h : Credited (pending + limit) s) (hspec : spec.isT7 = true) (core : DexCore)
    {writes : List (ℕ × ℕ)} (hwrites : writes.length ≤ 12) :
    let t := ({ s with credits := s.credits.setBudget limit } : DexState).write spec core writes
    s.credits.balance ≤ t.credits.balance + limit ∧
      Credited (pending + (limit - (s.credits.balance - t.credits.balance)))
        { t with credits := t.credits.resetToPreserve } := by
  intro t
  have haccount : t.credits = (s.credits.setBudget limit).sstoreAll writes := if_pos hspec
  have hbound : s.credits.balance ≤ t.credits.balance + limit := by
    rw [haccount]
    -- An unlimited budget is far above the number of slots written.
    by_cases hlimit : limit < u64Max
    · have hbudget := CreditAccount.balance_add_budget_le_sstoreAll writes
        (show (s.credits.setBudget limit).budget < u64Max from hlimit)
      have hstart : (s.credits.setBudget limit).balance = s.credits.balance := rfl
      have hstop : (s.credits.setBudget limit).budget = limit := rfl
      omega
    · have hlength := CreditAccount.balance_le_sstoreAll_add_length writes
        (s.credits.setBudget limit)
      have hstart : (s.credits.setBudget limit).balance = s.credits.balance := rfl
      have hmax : 12 ≤ u64Max := by decide
      omega
  refine ⟨hbound, rfl, ?_⟩
  refine h.backed.mono ?_
  show (s.credits.balance : ℤ) - _ ≤ (t.credits.balance : ℤ) - _
  omega

end Credited

/-! ## Writes -/

variable {user : Address} {field : OrderField} {core : DexState → DexCore}
  {writes : DexState → List (ℕ × ℕ)}

section Writes

variable {pending : ℕ} {spec : TempoHardfork} {α : Type}

theorem keepsCredit_write :
    KeepsCredit pending (modify fun s => s.write spec (core s) (writes s)) :=
  avoids_modify fun _ hs => hs.write _ _

theorem keepsCredit_read {read : DexState → α} :
    KeepsCredit pending (do let s ← get; pure (read s)) :=
  avoids_get_bind fun _ _ => avoids_pure _

theorem keepsCredit_core {f : DexState → DexCore} :
    KeepsCredit pending (modify fun s => { s with toDexCore := f s }) :=
  avoids_modify fun _ hs => hs.congr rfl rfl

theorem keepsCredit_liftToken {value : Except TokenError α} :
    KeepsCredit pending (liftToken value) := by
  cases value with
  | error e => exact avoids_throw nofun
  | ok a => exact avoids_pure a

theorem keepsCredit_readRecord {record : OrderRecord} {bookKeys : List B256}
    {knownBook : Option B256} :
    KeepsCredit pending (fromExcept (record.read bookKeys orderId knownBook)) := by
  refine avoids_fromExcept fun e he => ?_
  rw [OrderRecord.read_error he]
  exact Bool.false_ne_true

theorem keepsCredit_readOrderInBook :
    KeepsCredit pending (readOrderInBook orderId bookKey) :=
  avoids_get_bind fun _ _ => keepsCredit_readRecord

theorem keepsCredit_readOrder : KeepsCredit pending (readOrder orderId) :=
  avoids_get_bind fun _ _ => keepsCredit_readRecord

theorem not_creditFault_of_calcTickWordIdx {e : Error}
    (h : TickBitmap.calcTickWordIdx tick = .error e) : ¬ e.isCreditFault = true := by
  unfold TickBitmap.calcTickWordIdx at h
  split at h
  · simp at h
  · obtain rfl : Error.dex .invalidTick = e := by simpa using h
    exact Bool.false_ne_true

theorem keepsCredit_tickBit :
    KeepsCredit pending (fromExcept (TickBitmap.calcTickWordIdx tick) >>= fun _ =>
      modify fun s => s.write spec (core s) (writes s)) := by
  refine avoids_bind (avoids_fromExcept fun _ => not_creditFault_of_calcTickWordIdx) fun _ => ?_
  exact keepsCredit_write

theorem keepsCredit_updateBalance {updated : ℕ → Option ℕ} :
    KeepsCredit pending (do
      let current ← balanceOf user token
      let updated ← okOr (updated current) Error.underOverflow
      setBalance spec user token updated) := by
  refine avoids_bind keepsCredit_read fun current => ?_
  exact avoids_bind (avoids_okOr nofun) fun _ => keepsCredit_write

variable {ctx : Context}

theorem keepsCredit_moveTokens {recipient : Address} :
    KeepsCredit pending (moveTokens ctx token sender recipient amount) := by
  refine avoids_bind keepsCredit_liftToken fun _ => ?_
  refine avoids_get_bind fun s _ => ?_
  exact avoids_bind keepsCredit_liftToken fun ledger => keepsCredit_core

theorem keepsCredit_decrementBalanceOrTransferFrom {checkPause : Bool} :
    KeepsCredit pending
      (decrementBalanceOrTransferFrom ctx sender token amount checkPause) := by
  refine avoids_bind keepsCredit_liftToken fun _ => ?_
  refine avoids_bind keepsCredit_liftToken fun _ => ?_
  refine avoids_bind keepsCredit_read fun userBalance => ?_
  refine avoids_ite (fun _ => ?_) (fun _ => ?_)
  · exact avoids_bind (avoids_onlyIf fun _ => keepsCredit_liftToken) fun _ =>
      keepsCredit_updateBalance
  · refine avoids_bind (avoids_okOr nofun) fun remaining => ?_
    exact avoids_bind keepsCredit_moveTokens fun _ => keepsCredit_write

end Writes

/-! ## Minting, crediting and spending -/

variable {s : DexState}

section Moves

variable {pending : ℕ} {spec : TempoHardfork}

section Minting

variable (hspec : spec.isT7 = true)

include hspec

/-- What a tracked write mints is pending afterwards. -/
theorem movesCredit_trackMintedCredits :
    MovesCredit pending
      (trackMintedCredits spec consumedCredits (modify fun s => s.write spec (core s) (writes s)))
      (fun minted => pending + minted.2) := by
  intro s hs
  let t := s.write spec (core s) (writes s)
  have hrun : trackMintedCredits spec consumedCredits
      (modify fun s => s.write spec (core s) (writes s)) s =
      .ok ((), t.credits.balance - s.credits.balance) t := by
    unfold trackMintedCredits
    rw [if_neg (by simp [hspec])]
    exact require_bind_ok.mpr ⟨hs.balance_le_account spec (writes s), rfl⟩
  rw [hrun]
  exact hs.write_minted _ _

theorem movesCredit_deleteOrder :
    MovesCredit pending (deleteOrder spec order) (fun minted => pending + minted) :=
  movesCredit_bind (movesCredit_trackMintedCredits hspec) fun _ => movesCredit_pure rfl

theorem movesCredit_rewriteOrder :
    MovesCredit pending (rewriteOrder spec order bookId) (fun minted => pending + minted) :=
  movesCredit_bind (movesCredit_trackMintedCredits hspec) fun _ => movesCredit_pure rfl

/-- A write under a budget: the change of the balance, and the state with the mode
reset. -/
theorem triple_withBudget (hlimit : limit ≠ 0) {f : DexState → DexState}
    {err : Error → DexState → Prop} :
    Triple (fun t => t = s) (withBudget spec limit (modify f))
      (fun written t =>
        let finished := f { s with credits := s.credits.setBudget limit }
        written.2 = (finished.credits.balance : ℤ) - s.credits.balance ∧
          t = { finished with credits := finished.credits.resetToPreserve }) err := by
  intro t ht
  rw [ht]
  unfold withBudget
  rw [if_neg (by simp [hspec]), if_neg hlimit]
  exact ⟨rfl, rfl⟩

/-- Crediting a user takes the credits off what is pending, and never raises the
mismatch. -/
theorem movesCredit_creditDexStorageSlots {slots : ℕ} :
    MovesCredit (pending + slots) (creditDexStorageSlots spec user slots)
      (fun _ => pending) := by
  refine triple_ite (fun hskip => triple_pure fun s hs => ?_) (fun hskip => ?_)
  · have hzero : slots = 0 := by simpa [hspec] using hskip
    rw [hzero] at hs
    exact hs
  have hslots : slots ≠ 0 := fun hzero => hskip (.inl hzero)
  refine triple_get_bind fun s hs => triple_ite (fun _ => ?_) (fun hunused => ?_)
  · refine triple_modify ?_
    rintro _ rfl
    exact hs.grown
  · have hunused : s.storageCredits user = 0 := not_not.mp hunused
    obtain ⟨hspent, hcredited⟩ := hs.opened hspec hslots hunused
    rw [hunused, Nat.zero_add]
    refine triple_bind (triple_withBudget hspec Nat.one_ne_zero) fun written => ?_
    refine triple_require ?_ ?_
    · rintro _ ⟨_, rfl⟩ _
      exact hcredited
    · rintro _ ⟨hdelta, _⟩ hmismatch
      omega

end Minting

/-- The credits a budgeted write spent, as its caller computes them. -/
def spentCredits (delta : ℤ) : ℕ := if delta < 0 then (-delta).toNat else 0

section Spending

variable (hspec : spec.isT7 = true)

include hspec

/-- A write of a few slots under a budget leaves pending what it did not spend. -/
theorem movesCredit_withBudget (hlimit : limit ≠ 0) (hlength : ∀ s, (writes s).length ≤ 12) :
    MovesCredit (pending + limit)
      (withBudget spec limit (modify fun s => s.write spec (core s) (writes s)))
      (fun written => pending + (limit - spentCredits written.2)) := by
  intro s hs
  refine (triple_withBudget hspec hlimit).consequence (fun t ht => ht) ?_ (fun _ _ he => he) s rfl
  rintro written _ ⟨hdelta, rfl⟩
  obtain ⟨_, hcredited⟩ := hs.spent hspec (core { s with credits := s.credits.setBudget limit })
    (hlength { s with credits := s.credits.setBudget limit })
  convert hcredited using 2
  unfold spentCredits
  split <;> omega

/-- Placing an order spends its maker's credits; the rest goes back on the counter. -/
theorem keepsCredit_writeOrderSpending :
    KeepsCredit pending (writeOrderSpendingDexStorageCredits spec order bookId) := by
  refine triple_get_bind fun s hs => triple_ite (fun _ => ?_) (fun hlive => ?_)
  · have hwrite : KeepsCredit pending (writeOrderInBook spec order.orderId order bookId) :=
      keepsCredit_write
    rintro _ rfl
    exact hwrite _ hs
  have hclear : Triple (fun t => t = s)
      (modify fun s => s.writeStorageCredits spec order.maker 0 : DexM PUnit)
      (fun _ => Credited (pending + s.storageCredits order.maker))
      (fun e _ => ¬ e.isCreditFault = true) :=
    triple_modify fun t ht => by rw [ht]; exact hs.cleared hspec hlive
  have hwrite : MovesCredit (pending + s.storageCredits order.maker)
      (withBudget spec (s.storageCredits order.maker)
        (writeOrderInBook spec order.orderId order bookId))
      (fun written => pending + (s.storageCredits order.maker - spentCredits written.2)) :=
    movesCredit_withBudget hspec hlive fun _ => OrderRecord.length_writeSlots_le spec _ _
  refine triple_bind hclear fun _ => triple_bind hwrite fun written => ?_
  exact movesCredit_creditDexStorageSlots hspec

theorem movesCredit_unlinkNeighbor {value : ℕ} :
    MovesCredit pending (unlinkNeighborAndCreditMaker spec orderId field value)
      (fun _ => pending) := by
  refine movesCredit_bind (movesCredit_trackMintedCredits hspec) fun minted => ?_
  refine triple_onlyIf (fun _ => ?_) (fun hzero s hs => ?_)
  · refine triple_get_bind fun s hs => ?_
    rintro _ rfl
    exact movesCredit_creditDexStorageSlots hspec _ hs
  · rw [not_not.mp hzero] at hs
    exact hs

theorem movesCredit_deleteOrderAndTrackDeltas :
    MovesCredit (pending + pendingCredits deltas) (deleteOrderAndTrackDeltas spec deltas order)
      (fun deltas' => pending + pendingCredits deltas') := by
  refine movesCredit_bind (movesCredit_deleteOrder hspec) fun minted => movesCredit_pure ?_
  rw [pendingCredits_creditSlots, ← Nat.add_assoc]

theorem movesCredit_flushDeltas (deltas : StorageCreditDeltas) :
    MovesCredit (pending + pendingCredits deltas) (flushDeltas spec deltas)
      (fun _ => pending) := by
  induction deltas with
  | nil =>
    exact triple_pure fun s hs => hs
  | cons entry rest ih =>
    have hsum : pending + pendingCredits (entry :: rest) =
        pending + pendingCredits rest + entry.2 := by
      simp only [pendingCredits, List.map_cons, List.sum_cons]
      omega
    rw [hsum]
    exact triple_bind (movesCredit_creditDexStorageSlots hspec) fun _ => ih

end Spending

end Moves

/-! ## Orders -/

section Orders

variable {pending : ℕ} {ctx : Context} {quote : Address}

theorem keepsCredit_escrowFor :
    KeepsCredit pending (escrowFor base quote amount isBid tick) := by
  refine avoids_ite (fun _ => ?_) (fun _ => avoids_pure _)
  exact avoids_bind (avoids_okOr nofun) fun quoteAmount => avoids_pure _

theorem keepsCredit_linkAtTail :
    KeepsCredit pending (linkAtTail ctx book order level) := by
  refine avoids_ite (fun _ => ?_) (fun _ => avoids_ite (fun _ => ?_) (fun _ => ?_))
  · refine avoids_bind keepsCredit_tickBit fun _ => ?_
    exact avoids_bind (avoids_onlyIf fun _ => keepsCredit_write) fun _ => avoids_pure _
  · exact avoids_bind keepsCredit_write fun _ => avoids_pure _
  · refine avoids_bind keepsCredit_readOrderInBook fun prevOrder => ?_
    exact avoids_bind keepsCredit_write fun _ => avoids_pure _

theorem keepsCredit_liquidity {total : Option ℕ} :
    KeepsCredit pending (if ctx.spec.isT12 then pure level else do
      let total ← okOr total Error.underOverflow
      pure { level with totalLiquidity := total }) := by
  refine avoids_ite (fun _ => avoids_pure _) (fun _ => ?_)
  exact avoids_bind (avoids_okOr nofun) fun total => avoids_pure _

variable {chargeCredits : Bool}

theorem keepsCredit_storeCommitted (hspec : ctx.spec.isT7 = true) :
    KeepsCredit pending (storeCommitted ctx order bookId chargeCredits) := by
  refine avoids_ite (fun _ => keepsCredit_writeOrderSpending hspec) (fun _ => ?_)
  refine avoids_ite (fun _ => ?_) (fun _ => keepsCredit_write)
  refine triple_bind (movesCredit_rewriteOrder hspec) fun minted => ?_
  exact movesCredit_creditDexStorageSlots hspec

theorem keepsCredit_commitOrderToBook (hspec : ctx.spec.isT7 = true) :
    KeepsCredit pending (commitOrderToBook ctx order chargeCredits) := by
  refine avoids_get_bind fun s _ => ?_
  refine avoids_bind keepsCredit_read fun level => ?_
  refine avoids_bind keepsCredit_linkAtTail fun linked => ?_
  refine avoids_bind keepsCredit_liquidity fun level => ?_
  exact avoids_bind keepsCredit_write fun _ => keepsCredit_storeCommitted hspec

/-- A flip that fails is undone, and with it what it did to the credits. -/
theorem triple_flipInPlace_credited (hspec : ctx.spec.isT7 = true) :
    Triple (Credited pending) (flipInPlace ctx order base quote) (fun _ => Credited pending)
      (fun e s => Credited pending s ∧ ¬ e.isCreditFault = true) := by
  have hatomic : ctx.spec.isT1C = true :=
    TempoHardfork.isT1C_of_isT5 (TempoHardfork.isT5_of_isT7 hspec)
  refine triple_atomically ?_ (fun e s t _ hs he => ⟨hs, he⟩)
    (fun e s hinactive _ => absurd hatomic (by rw [hinactive]; exact Bool.false_ne_true))
  refine avoids_bind keepsCredit_escrowFor fun escrow => ?_
  refine avoids_bind keepsCredit_read fun userBalance => ?_
  refine avoids_require_bind nofun fun _ => ?_
  refine avoids_bind keepsCredit_liftToken fun _ => ?_
  refine avoids_bind keepsCredit_liftToken fun _ => ?_
  refine avoids_bind keepsCredit_liftToken fun _ => ?_
  refine avoids_bind keepsCredit_liftToken fun _ => ?_
  refine avoids_bind keepsCredit_liftToken fun _ => ?_
  refine avoids_bind keepsCredit_liftToken fun _ => ?_
  refine avoids_bind keepsCredit_updateBalance fun _ => ?_
  exact keepsCredit_commitOrderToBook hspec

theorem keepsCredit_checkNonEscrowToken {maker : Address} :
    KeepsCredit pending (checkNonEscrowToken ctx token maker) := by
  refine avoids_bind keepsCredit_liftToken fun _ => ?_
  refine avoids_bind keepsCredit_liftToken fun _ => ?_
  exact avoids_onlyIf fun _ => keepsCredit_liftToken

variable {internalBalanceOnly : Bool}

theorem keepsCredit_debitFlipEscrow {escrow : Escrow} :
    KeepsCredit pending (debitFlipEscrow ctx sender escrow internalBalanceOnly) := by
  refine avoids_ite (fun _ => ?_) (fun _ => keepsCredit_decrementBalanceOrTransferFrom)
  refine avoids_bind keepsCredit_liftToken fun _ => ?_
  refine avoids_bind keepsCredit_liftToken fun _ => ?_
  refine avoids_bind (avoids_onlyIf fun _ => keepsCredit_liftToken) fun _ => ?_
  refine avoids_bind keepsCredit_read fun userBalance => ?_
  refine avoids_require_bind nofun fun _ => ?_
  exact keepsCredit_updateBalance

section Placing

variable [BookHash]

theorem keepsCredit_createPair : KeepsCredit pending (createPair ctx base) := by
  refine avoids_require_bind nofun fun _ => ?_
  refine avoids_bind keepsCredit_liftToken fun _ => ?_
  refine avoids_bind keepsCredit_liftToken fun _ => ?_
  refine avoids_bind keepsCredit_liftToken fun _ => ?_
  refine avoids_get_bind fun s _ => ?_
  refine avoids_require_bind nofun fun _ => ?_
  refine avoids_bind (keepsCredit_write) fun _ => ?_
  exact avoids_bind (keepsCredit_write) fun _ => avoids_pure _

theorem keepsCredit_validateOrCreatePair :
    KeepsCredit pending (validateOrCreatePair ctx book token) := by
  refine avoids_onlyIf fun _ => ?_
  exact avoids_bind keepsCredit_createPair fun _ => avoids_pure _

theorem keepsCredit_place (hspec : ctx.spec.isT7 = true) :
    KeepsCredit pending (place ctx sender token amount isBid tick) := by
  refine avoids_bind keepsCredit_liftToken fun _ => ?_
  refine avoids_get_bind fun s _ => ?_
  refine avoids_bind keepsCredit_validateOrCreatePair fun _ => ?_
  refine avoids_require_bind nofun fun _ => ?_
  refine avoids_require_bind nofun fun _ => ?_
  refine avoids_require_bind nofun fun _ => ?_
  refine avoids_bind keepsCredit_escrowFor fun escrow => ?_
  refine avoids_bind keepsCredit_checkNonEscrowToken fun _ => ?_
  refine avoids_bind keepsCredit_decrementBalanceOrTransferFrom fun _ => ?_
  refine avoids_bind keepsCredit_read fun orderId => ?_
  refine avoids_bind ?_ fun _ => ?_
  · exact avoids_bind keepsCredit_read fun _ =>
      keepsCredit_write
  · exact avoids_bind (keepsCredit_commitOrderToBook hspec) fun _ => avoids_pure _

theorem keepsCredit_placeFlip (hspec : ctx.spec.isT7 = true) {flipTick : ℤ} :
    KeepsCredit pending
      (placeFlip ctx sender token amount isBid tick flipTick internalBalanceOnly) := by
  refine avoids_bind keepsCredit_liftToken fun _ => ?_
  refine avoids_atomically _ ?_
  refine avoids_get_bind fun s _ => ?_
  refine avoids_bind keepsCredit_validateOrCreatePair fun _ => ?_
  refine avoids_require_bind nofun fun _ => ?_
  refine avoids_require_bind nofun fun _ => ?_
  refine avoids_require_bind nofun fun _ => ?_
  refine avoids_require_bind nofun fun _ => ?_
  refine avoids_require_bind nofun fun _ => ?_
  refine avoids_require_bind nofun fun _ => ?_
  refine avoids_bind keepsCredit_escrowFor fun escrow => ?_
  refine avoids_bind keepsCredit_checkNonEscrowToken fun _ => ?_
  refine avoids_bind keepsCredit_debitFlipEscrow fun _ => ?_
  refine avoids_bind keepsCredit_read fun orderId => ?_
  refine avoids_bind (avoids_okOr nofun) fun order => ?_
  refine avoids_bind (keepsCredit_write) fun _ => ?_
  exact avoids_bind (keepsCredit_commitOrderToBook hspec) fun _ => avoids_pure _

end Placing

end Orders

section Fills

variable {pending fillAmount : ℕ} {ctx : Context}

/-! ## Cancellations -/

theorem keepsCredit_retireTick : KeepsCredit pending (retireTick ctx order) := by
  refine avoids_bind keepsCredit_tickBit fun _ => ?_
  refine avoids_get_bind fun s _ => avoids_onlyIf fun _ => ?_
  exact avoids_bind keepsCredit_read fun found => keepsCredit_write

theorem keepsCredit_refundEscrow :
    KeepsCredit pending (refundEscrow ctx order) := by
  refine avoids_get_bind fun s _ => ?_
  refine avoids_ite (fun _ => ?_) (fun _ => keepsCredit_updateBalance)
  exact avoids_bind (avoids_okOr nofun) fun _ => keepsCredit_updateBalance

theorem movesCredit_cancelActiveOrder (hspec : ctx.spec.isT7 = true) :
    MovesCredit pending (cancelActiveOrder ctx order) (fun _ => pending) := by
  refine movesCredit_bind keepsCredit_read fun level => ?_
  refine movesCredit_bind (avoids_onlyIf fun _ => movesCredit_unlinkNeighbor hspec)
    fun _ => ?_
  refine movesCredit_bind (avoids_onlyIf fun _ => movesCredit_unlinkNeighbor hspec)
    fun _ => ?_
  refine movesCredit_bind keepsCredit_liquidity fun level => ?_
  refine movesCredit_bind (avoids_onlyIf fun _ => keepsCredit_retireTick) fun _ => ?_
  refine movesCredit_bind (avoids_onlyIf fun _ => keepsCredit_write) fun _ => ?_
  refine movesCredit_bind keepsCredit_refundEscrow fun _ => ?_
  exact movesCredit_bind (movesCredit_deleteOrder hspec) fun minted =>
    movesCredit_creditDexStorageSlots hspec

theorem keepsCredit_isAuthorizedForToken {address : Address} {role : AuthRole} :
    KeepsCredit pending (isAuthorizedForToken ctx token address role) := by
  refine avoids_bind keepsCredit_liftToken fun _ => ?_
  cases ctx.env.authorizedAs token address role with
  | ok authorized => exact avoids_pure _
  | error e => exact avoids_ite (fun _ => avoids_pure _) (fun _ => avoids_throw nofun)

theorem keepsCredit_isMakerAuthorized :
    KeepsCredit pending (isMakerAuthorized ctx order) := by
  refine avoids_get_bind fun s _ => ?_
  refine avoids_bind keepsCredit_isAuthorizedForToken fun senderAuthorized => ?_
  refine avoids_ite (fun _ => avoids_pure _) (fun _ => ?_)
  exact avoids_ite (fun _ => keepsCredit_isAuthorizedForToken) (fun _ => avoids_pure _)

theorem keepsCredit_setBookIndex {index : ℕ} : KeepsCredit pending (setBookIndex ctx index) := by
  refine avoids_bind (avoids_get_bind fun s _ => avoids_okOr nofun) fun bookKey => ?_
  refine avoids_bind (avoids_get_bind fun s _ => ?_) fun current => ?_
  · exact avoids_require_bind nofun fun _ => avoids_pure _
  cases current with
  | some currentIndex => exact avoids_require nofun
  | none => exact keepsCredit_write

/-! ## Fills -/

theorem keepsCredit_settleMaker :
    KeepsCredit pending (settleMaker ctx book order fillAmount) := by
  refine avoids_ite (fun _ => keepsCredit_updateBalance) (fun _ => ?_)
  exact avoids_bind (avoids_okOr nofun) fun _ => keepsCredit_updateBalance

theorem keepsCredit_partialFillOrder :
    KeepsCredit pending (partialFillOrder ctx order level fillAmount taker) := by
  refine avoids_get_bind fun s _ => ?_
  refine avoids_bind keepsCredit_write fun _ => ?_
  refine avoids_bind keepsCredit_settleMaker fun _ => ?_
  refine avoids_bind keepsCredit_liquidity fun level => ?_
  refine avoids_bind (avoids_onlyIf fun _ => keepsCredit_write) fun _ => ?_
  exact avoids_bind keepsCredit_core fun _ => avoids_pure _

theorem keepsCredit_advanceTick :
    KeepsCredit pending (advanceTick ctx bookKey order) := by
  refine avoids_bind keepsCredit_write fun _ => ?_
  refine avoids_bind keepsCredit_tickBit fun _ => ?_
  refine avoids_bind keepsCredit_read fun found => ?_
  refine avoids_bind keepsCredit_write fun _ => ?_
  refine avoids_ite (fun _ => ?_) (fun _ => avoids_pure _)
  refine avoids_bind keepsCredit_read fun newLevel => ?_
  exact avoids_bind keepsCredit_readOrderInBook fun newOrder => avoids_pure _

theorem movesCredit_advanceOrder (hspec : ctx.spec.isT7 = true) :
    MovesCredit (pending + pendingCredits deltas) (advanceOrder ctx deltas bookKey order level)
      (fun next => pending + pendingCredits next.1) := by
  refine movesCredit_bind (movesCredit_trackMintedCredits hspec) fun minted => ?_
  refine movesCredit_bind keepsCredit_liquidity fun level => ?_
  refine movesCredit_bind keepsCredit_write fun _ => ?_
  refine movesCredit_bind keepsCredit_readOrderInBook fun newOrder => movesCredit_pure ?_
  rw [pendingCredits_creditSlots, ← Nat.add_assoc]

/-- Deferred credits are handed from hop to hop. -/
theorem movesCredit_fillRoute
    {fill : StorageCreditDeltas → B256 → Bool → ℕ → DexM (ℕ × StorageCreditDeltas)}
    (hfill : ∀ deltas bookKey isBid amount,
      MovesCredit (pending + pendingCredits deltas) (fill deltas bookKey isBid amount)
        (fun filled => pending + pendingCredits filled.2)) (hops : List Hop) :
    ∀ deltas amount, MovesCredit (pending + pendingCredits deltas)
      (fillRoute fill hops deltas amount) (fun filled => pending + pendingCredits filled.2) := by
  induction hops with
  | nil =>
    intro deltas amount
    exact movesCredit_pure rfl
  | cons hop rest ih =>
    intro deltas amount
    exact movesCredit_bind (hfill deltas hop.1 hop.2 amount) fun filled =>
      ih filled.2 filled.1

theorem keepsCredit_findPathToRoot (fuel : ℕ) :
    ∀ token, KeepsCredit pending (findPathToRoot ctx fuel token) := by
  induction fuel with
  | zero =>
    intro token
    exact avoids_throw nofun
  | succ fuel ih =>
    intro token
    refine avoids_ite (fun _ => avoids_pure _) (fun _ => ?_)
    refine avoids_bind keepsCredit_liftToken fun _ => ?_
    exact avoids_bind (ih _) fun rest => avoids_pure _

variable [BookHash]

theorem movesCredit_retireFilledOrder (hspec : ctx.spec.isT7 = true) :
    MovesCredit (pending + pendingCredits deltas) (retireFilledOrder ctx deltas book order)
      (fun deltas' => pending + pendingCredits deltas') := by
  have hinPlace : ctx.spec.isT5 = true := TempoHardfork.isT5_of_isT7 hspec
  have hdelete : MovesCredit (pending + pendingCredits deltas)
      (deleteOrderAndTrackDeltas ctx.spec deltas order)
      (fun deltas' => pending + pendingCredits deltas') :=
    movesCredit_deleteOrderAndTrackDeltas hspec
  have hflip : Triple (Credited (pending + pendingCredits deltas)) (tryFlip ctx book order)
      (fun _ => Credited (pending + pendingCredits deltas))
      (fun e s => Credited (pending + pendingCredits deltas) s ∧ ¬ e.isCreditFault = true) := by
    unfold tryFlip
    rw [if_pos hinPlace]
    exact triple_flipInPlace_credited hspec
  refine triple_ite (fun _ => ?_) (fun _ => hdelete)
  have hattempt : Triple (Credited (pending + pendingCredits deltas))
      (attempt (tryFlip ctx book order))
      (fun result s => Credited (pending + pendingCredits deltas) s ∧
        ∀ e, result = .error e → ¬ e.isCreditFault = true)
      (fun e _ => ¬ e.isCreditFault = true) := by
    refine triple_attempt (hflip.consequence (fun s hs => hs) (fun _ s hs => ⟨hs, nofun⟩) ?_)
    rintro e s ⟨hs, he⟩
    refine ⟨hs, ?_⟩
    rintro _ ⟨⟩
    exact he
  refine triple_bind hattempt fun result => ?_
  cases result with
  | ok _ =>
    refine triple_ite (fun _ => triple_pure fun s hs => hs.1) (fun hlegacy => ?_)
    exact absurd hinPlace hlegacy
  | error e =>
    refine triple_ite (fun _ => triple_throw fun s hs => hs.2 e rfl) (fun _ => ?_)
    exact hdelete.consequence (fun s hs => hs.1) (fun _ _ h => h) (fun _ _ h => h)

section Advancing

variable (hspec : ctx.spec.isT7 = true)

include hspec

theorem movesCredit_fillOrder :
    MovesCredit (pending + pendingCredits deltas)
      (fillOrder ctx deltas bookKey order level taker)
      (fun filled => pending + pendingCredits filled.1) := by
  refine triple_get_bind fun s hs => ?_
  rintro _ rfl
  refine movesCredit_bind keepsCredit_settleMaker (fun _ => ?_) _ hs
  refine movesCredit_bind keepsCredit_core fun _ => ?_
  refine movesCredit_bind (movesCredit_retireFilledOrder hspec) fun deltas => ?_
  refine triple_ite (fun _ => ?_) (fun _ => ?_)
  · exact movesCredit_bind keepsCredit_advanceTick fun next => movesCredit_pure rfl
  · exact movesCredit_bind (movesCredit_advanceOrder hspec) fun next => movesCredit_pure rfl

/-- One settlement of the walk keeps the credits deferred so far covered. -/
theorem settleFill_avoids (order : Order) (fill : Fill) :
    Avoids (fun e => e.isCreditFault = true)
      (fun w : FillState => Credited (pending + pendingCredits w.deltas) w.dex)
      (settleFill ctx bookKey taker order fill) := by
  intro w hw
  cases fill with
  | partially fillAmount =>
    have hpart : KeepsCredit (pending + pendingCredits w.deltas)
        (partialFillOrder ctx order w.level fillAmount taker) :=
      keepsCredit_partialFillOrder
    unfold settleFill
    cases hrun : partialFillOrder ctx order w.level fillAmount taker w.dex with
    | ok level s => simpa only [hrun] using hpart.ok hw hrun
    | error e s => simpa only [hrun] using hpart.error hw hrun
  | full =>
    have hfull : MovesCredit (pending + pendingCredits w.deltas)
        (fillOrder ctx w.deltas bookKey order w.level taker)
        (fun filled => pending + pendingCredits filled.1) :=
      movesCredit_fillOrder hspec
    unfold settleFill
    cases hrun : fillOrder ctx w.deltas bookKey order w.level taker w.dex with
    | ok filled s =>
      have hfilled := hfull.ok hw hrun
      rcases filled with ⟨deltas, _ | next⟩
      · simpa only [hrun] using hfilled
      · simpa only [hrun] using hfilled
    | error e s => simpa only [hrun] using hfull.error hw hrun

variable {step : ℕ → Order → Bool → Option OrderStep}

theorem movesCredit_settleOrders :
    MovesCredit (pending + pendingCredits deltas)
      (settleOrders ctx step taker deltas bookKey isBid amount level order)
      (fun filled => pending + pendingCredits filled.2) := by
  intro s hs
  have hwalk : Avoids (fun e => e.isCreditFault = true)
      (fun w : FillState => Credited (pending + pendingCredits w.deltas) w.dex)
      (walkRestingOrders step isBid (settleFill ctx bookKey taker) s.nextOrderId order amount 0) :=
    walkRestingOrders_avoids nofun nofun nofun
      (settleFill_avoids hspec) s.nextOrderId order amount 0
  unfold settleOrders
  cases hrun : walkRestingOrders step isBid (settleFill ctx bookKey taker) s.nextOrderId order
      amount 0 ⟨s, level, deltas⟩ with
  | ok total w => exact hwalk.ok (s := ⟨s, level, deltas⟩) hs hrun
  | error e w => exact hwalk.error (s := ⟨s, level, deltas⟩) hs hrun

theorem movesCredit_fillOrders :
    MovesCredit (pending + pendingCredits deltas)
      (fillOrders ctx step taker deltas bookKey isBid amount)
      (fun filled => pending + pendingCredits filled.2) := by
  have hbest : KeepsCredit (pending + pendingCredits deltas)
      (getBestPriceLevel ctx bookKey isBid) :=
    avoids_get_bind fun s _ => avoids_require_bind nofun fun _ => keepsCredit_read
  refine movesCredit_bind hbest fun level => ?_
  exact movesCredit_bind keepsCredit_readOrderInBook fun order => movesCredit_settleOrders hspec

end Advancing

/-! ## Routes and swaps -/

theorem keepsCredit_buildHop :
    KeepsCredit pending (buildHop ctx tokenIn tokenOut) := by
  refine avoids_bind keepsCredit_liftToken fun _ => ?_
  refine avoids_bind (avoids_onlyIf fun _ => keepsCredit_liftToken) fun _ => ?_
  refine avoids_bind (avoids_onlyIf fun _ => ?_) fun _ => ?_
  · exact avoids_bind keepsCredit_liftToken fun _ => avoids_require nofun
  refine avoids_get_bind fun s _ => ?_
  exact avoids_require_bind nofun fun _ => avoids_pure _

theorem keepsCredit_validateAndBuildRoute (path : List Address) :
    KeepsCredit pending (validateAndBuildRoute ctx path) := by
  induction path with
  | nil =>
    exact avoids_pure _
  | cons tokenIn rest ih =>
    cases rest with
    | nil =>
      exact avoids_pure _
    | cons tokenOut rest =>
      exact avoids_bind keepsCredit_buildHop fun hop => avoids_bind ih fun hops =>
        avoids_pure _

theorem keepsCredit_findTradePath :
    KeepsCredit pending (findTradePath ctx tokenIn tokenOut) := by
  refine avoids_require_bind nofun fun _ => ?_
  refine avoids_require_bind nofun fun _ => ?_
  refine avoids_ite (fun _ => keepsCredit_validateAndBuildRoute _) (fun _ => ?_)
  refine avoids_bind (keepsCredit_findPathToRoot _ _) fun pathIn => ?_
  refine avoids_bind (keepsCredit_findPathToRoot _ _) fun pathOut => ?_
  refine avoids_bind (avoids_okOr nofun) fun lca => ?_
  exact keepsCredit_validateAndBuildRoute _

theorem movesCredit_swapExactAmountIn (hspec : ctx.spec.isT7 = true) {amountIn minAmountOut : ℕ} :
    MovesCredit pending
      (swapExactAmountIn ctx sender tokenIn tokenOut amountIn minAmountOut)
      (fun _ => pending) := by
  refine movesCredit_bind keepsCredit_findTradePath fun route => ?_
  refine movesCredit_bind keepsCredit_decrementBalanceOrTransferFrom fun _ => ?_
  refine movesCredit_bind (movesCredit_fillRoute
    (fun deltas bookKey isBid amount => movesCredit_fillOrders hspec) route [] amountIn)
    fun filled => ?_
  refine movesCredit_bind (avoids_require nofun) fun _ => ?_
  refine movesCredit_bind keepsCredit_moveTokens fun _ => ?_
  exact movesCredit_bind (movesCredit_flushDeltas hspec filled.2) fun _ => movesCredit_pure rfl

theorem movesCredit_swapExactAmountOut (hspec : ctx.spec.isT7 = true) {amountOut maxAmountIn : ℕ} :
    MovesCredit pending
      (swapExactAmountOut ctx sender tokenIn tokenOut amountOut maxAmountIn)
      (fun _ => pending) := by
  refine movesCredit_bind keepsCredit_findTradePath fun route => ?_
  refine movesCredit_bind (movesCredit_fillRoute
    (fun deltas bookKey isBid amount => movesCredit_fillOrders hspec) route.reverse [] amountOut)
    fun filled => ?_
  refine movesCredit_bind (avoids_require nofun) fun _ => ?_
  refine movesCredit_bind keepsCredit_decrementBalanceOrTransferFrom fun _ => ?_
  refine movesCredit_bind keepsCredit_moveTokens fun _ => ?_
  exact movesCredit_bind (movesCredit_flushDeltas hspec filled.2) fun _ => movesCredit_pure rfl

/-! ## Calls and runs -/

theorem DexCall.keepsCredit (hspec : ctx.spec.isT7 = true) (call : DexCall) :
    KeepsCredit pending (call.run ctx) := by
  cases call with
  | createPair base => exact avoids_bind keepsCredit_createPair fun _ => avoids_pure _
  | place sender token amount isBid tick =>
    exact avoids_bind (keepsCredit_place hspec) fun _ => avoids_pure _
  | placeFlip sender token amount isBid tick flipTick internalBalanceOnly =>
    exact avoids_bind (keepsCredit_placeFlip hspec) fun _ => avoids_pure _
  | cancel sender orderId =>
    refine avoids_bind keepsCredit_readOrder fun order => ?_
    refine avoids_require_bind nofun fun _ => ?_
    refine avoids_require_bind nofun fun _ => ?_
    refine avoids_require_bind nofun fun _ => ?_
    exact movesCredit_cancelActiveOrder hspec
  | cancelStaleOrder orderId =>
    refine avoids_bind keepsCredit_readOrder fun order => ?_
    refine avoids_require_bind nofun fun _ => ?_
    refine avoids_bind keepsCredit_isMakerAuthorized fun authorized => ?_
    refine avoids_require_bind nofun fun _ => ?_
    exact movesCredit_cancelActiveOrder hspec
  | swapExactAmountIn sender tokenIn tokenOut amountIn minAmountOut =>
    exact movesCredit_bind (movesCredit_swapExactAmountIn hspec) fun _ => movesCredit_pure rfl
  | swapExactAmountOut sender tokenIn tokenOut amountOut maxAmountIn =>
    exact movesCredit_bind (movesCredit_swapExactAmountOut hspec) fun _ => movesCredit_pure rfl
  | withdraw user token amount =>
    refine avoids_bind keepsCredit_read fun currentBalance => ?_
    refine avoids_require_bind nofun fun _ => ?_
    exact avoids_bind keepsCredit_updateBalance fun _ => keepsCredit_moveTokens
  | setBookIndex index => exact keepsCredit_setBookIndex

/-- A state in which no user has credits, entered in `Preserve` mode. -/
def DexState.WithoutCredits (s : DexState) : Prop :=
  (∀ user, s.storageCredits user = 0) ∧ s.credits.mode = .preserve

theorem Reachable.credited
    (h : Reachable (fun ctx _ => ctx.spec.isT7 = true) DexState.WithoutCredits s) :
    Credited 0 s := by
  induction h with
  | start hs =>
    refine ⟨hs.2, ?_⟩
    simp only [hs.1]
    exact backed_zero (by omega)
  | call _ hspec hrun ih => exact Triple.ok (DexCall.keepsCredit hspec _) ih hrun
  | transfers _ _ ih => exact ih.congr rfl rfl

/-- Credit backing: from T7 on, in every state reached from one without user credits,
the credits of the DEX address cover `c - 1` for every user counter `c`, and no call
fails with one of the two fatal errors of the bookkeeping. -/
theorem reachable_credits_backed {s : DexState}
    (hreach : Reachable (fun ctx _ => ctx.spec.isT7 = true) DexState.WithoutCredits s) :
    (∀ users : Finset Address, ∑ user ∈ users, (s.storageCredits user - 1) ≤
        s.credits.balance) ∧
      ∀ (ctx : Context) (call : DexCall) (e : Error) (s' : DexState), ctx.spec.isT7 = true →
        call.run ctx s = .error e s' →
        (∀ delta, e ≠ .fatal (.spendMismatch delta)) ∧
          ∀ before after, e ≠ .fatal (.consumedCredits before after) := by
  have hcredited := hreach.credited
  refine ⟨fun users => ?_, fun ctx call e s' hspec hrun => ?_⟩
  · have hbacked : ((∑ user ∈ users, (s.storageCredits user - 1) : ℕ) : ℤ) ≤
        (s.credits.balance : ℤ) - 0 := hcredited.backed users
    omega
  · have hfault := Triple.error (DexCall.keepsCredit hspec call) hcredited hrun
    refine ⟨fun delta he => hfault ?_, fun before after he => hfault ?_⟩
    · rw [he]
      rfl
    · rw [he]
      rfl

end Fills

/-- Placing and cancelling the sample order leaves its maker credits. -/
theorem reachable_credits_backed_cancel :
    letI := BookHash.pairing
    ∃ s s', placeFlipSample.run ⟨.T8, .permissive pathUsdAddress, 0⟩ fundedDex = .ok () s ∧
      (DexCall.cancel 9 1).run ⟨.T8, .permissive pathUsdAddress, 0⟩ s = .ok () s' ∧
      s'.storageCredits 9 - 1 ≤ s'.credits.balance := by
  let := BookHash.pairing
  have hreturned : returned ((placeFlipSample.run ⟨.T8, .permissive pathUsdAddress, 0⟩ >>=
      fun _ => (DexCall.cancel 9 1).run ⟨.T8, .permissive pathUsdAddress, 0⟩) fundedDex) =
      true := by decide +kernel
  obtain ⟨_, s', hrun⟩ := returned_iff.mp hreturned
  obtain ⟨_, s, hplace, hcancel⟩ := bind_ok.mp hrun
  have hreach : Reachable (fun ctx _ => ctx.spec.isT7 = true) DexState.WithoutCredits s' :=
    .call (.call (.start ⟨fun _ => rfl, rfl⟩) (by decide) hplace) (by decide) hcancel
  have hbacked := (reachable_credits_backed hreach).1 {9}
  exact ⟨s, s', hplace, hcancel, hbacked⟩

end Monotempo.Dex
