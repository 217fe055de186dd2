/-
  The shares of a pool add up to its supply.

  A pool is untouched until its first deposit locks `MIN_LIQUIDITY` shares.  From then on
  its supply is the locked shares and those of its holders, and it never runs out of both
  reserves.  The exception is a fee swap of a single unit into an untouched pool: its output
  rounds down to nothing, so it succeeds, and the pool can never be initialised.
-/
import Monotempo.FeeAmm.Calls
import Monotempo.FeeAmm.Shares

set_option autoImplicit false

namespace Monotempo.FeeAmm

open Chain Foundation FeeState Function

variable {ctx : Context} {s s' t : FeeState} {sender dest : Address} {key other : PoolKey}
  {amount liquidity amountIn amountOut user validator : ℕ}

/-! ## Pools -/

/-- A pool without supply, reserves and holders. -/
structure Untouched (s : FeeState) (key : PoolKey) : Prop where
  supply : s.totalSupply key = 0
  reserves : (s.pools key).isEmpty
  balances : ∀ account, s.liquidityBalances key account = 0

/-- A pool whose supply is the locked shares and those of its holders, with reserves. -/
structure Initialised (s : FeeState) (key : PoolKey) : Prop where
  supply : ∃ shares, Totals (s.liquidityBalances key) shares ∧
    s.totalSupply key = minLiquidity + shares
  reserves : ¬ (s.pools key).isEmpty

/-- What a step may do to a pool. -/
structure Advances (s s' : FeeState) (key : PoolKey) : Prop where
  untouched : Untouched s key → Untouched s' key ∨ Initialised s' key
  initialised : Initialised s key → Initialised s' key

theorem Advances.trans (h : Advances s t key) (h' : Advances t s' key) : Advances s s' key := by
  refine ⟨fun huntouched => ?_, fun hinitialised => h'.initialised (h.initialised hinitialised)⟩
  rcases h.untouched huntouched with hsame | hinitialised
  · exact h'.untouched hsame
  · exact .inr (h'.initialised hinitialised)

theorem advances_of_same (hpool : s'.pools key = s.pools key)
    (hsupply : s'.totalSupply key = s.totalSupply key)
    (hbalances : s'.liquidityBalances key = s.liquidityBalances key) : Advances s s' key := by
  refine ⟨fun h => .inl ⟨?_, ?_, ?_⟩, fun h => ⟨?_, ?_⟩⟩
  · rw [hsupply]
    exact h.supply
  · rw [hpool]
    exact h.reserves
  · rw [hbalances]
    exact h.balances
  · rw [hsupply, hbalances]
    exact h.supply
  · rw [hpool]
    exact h.reserves

/-! ## Steps -/

theorem Deposited.advances (h : Deposited s s' sender other amount liquidity dest) :
    Advances s s' key := by
  by_cases hkey : key = other
  · subst hkey
    obtain ⟨hpool, hbalances, supply, hshares, hsupply⟩ := h.after
    have hreserves : ¬ (s'.pools key).isEmpty := by
      rw [hpool]
      exact fun hempty => h.nonzero (Nat.add_eq_zero_iff.mp hempty.2).2
    refine ⟨fun huntouched => .inr ⟨⟨liquidity, ?_, ?_⟩, hreserves⟩, fun hinitialised => ?_⟩
    · have hzero : s.liquidityBalances key = fun _ => 0 := funext huntouched.balances
      rw [hbalances, hzero]
      exact totals_zero.update dest (by simp)
    · rw [hsupply]
      cases hshares with
      | first empty covers => rw [huntouched.supply, Nat.zero_add]
      | later reserves worth => exact absurd huntouched.reserves reserves
    · obtain ⟨shares, htotals, hsupplied⟩ := hinitialised.supply
      refine ⟨⟨shares + liquidity, ?_, ?_⟩, hreserves⟩
      · rw [hbalances]
        exact htotals.update dest (by omega)
      · rw [hsupply]
        cases hshares with
        | first empty covers => exact absurd empty hinitialised.reserves
        | later reserves worth => rw [hsupplied, Nat.add_assoc]
  · obtain ⟨supply, -, tokens, rfl⟩ := h.minted
    refine advances_of_same ?_ ?_ ?_
    · simp [setLiquidityBalances, setTotalSupply, setPool, hkey]
    · simp [setLiquidityBalances, setTotalSupply, setPool, hkey]
    · simp [setLiquidityBalances, setTotalSupply, setPool, hkey]

/-- A part of the supply is worth less than a reserve. -/
theorem share_lt {reserve supply : ℕ} (hreserve : 0 < reserve) (hpart : liquidity < supply) :
    liquidity * reserve / supply < reserve := by
  rw [Nat.div_lt_iff_lt_mul (by omega), Nat.mul_comm reserve]
  exact Nat.mul_lt_mul_of_pos_right hpart hreserve

theorem Withdrawn.advances
    (h : Withdrawn s s' sender other liquidity user validator dest) :
    Advances s s' key := by
  rw [h.state]
  by_cases hkey : key = other
  · subst hkey
    refine ⟨fun huntouched => absurd huntouched.supply h.supplied, fun hinitialised => ?_⟩
    obtain ⟨shares, htotals, hsupply⟩ := hinitialised.supply
    have howned := Nat.le_trans h.owned (htotals.le sender)
    have hpart : liquidity < s.totalSupply key := by
      rw [hsupply, minLiquidity]
      omega
    refine ⟨⟨shares - liquidity, ?_, ?_⟩, fun hempty => hinitialised.reserves ?_⟩
    · simp only [setLiquidityBalances, setTotalSupply, setPool,
        update_self]
      have henough := h.owned
      exact htotals.update sender (by omega)
    · simp only [setLiquidityBalances, setTotalSupply, setPool,
        update_self]
      omega
    · simp only [Pool.isEmpty, setLiquidityBalances, setTotalSupply,
        setPool, update_self] at hempty
      -- a reserve that is not empty keeps something
      refine ⟨?_, ?_⟩
      · by_contra hreserve
        have hlt := share_lt (Nat.pos_of_ne_zero hreserve) hpart
        rw [← h.userShare] at hlt
        omega
      · by_contra hreserve
        have hlt := share_lt (Nat.pos_of_ne_zero hreserve) hpart
        rw [← h.validatorShare] at hlt
        omega
  · refine advances_of_same ?_ ?_ ?_
    · simp [setLiquidityBalances, setTotalSupply, setPool, hkey]
    · simp [setLiquidityBalances, setTotalSupply, setPool, hkey]
    · simp [setLiquidityBalances, setTotalSupply, setPool, hkey]

theorem Rebalanced.advances (h : Rebalanced s s' sender other amountOut amountIn dest) :
    Advances s s' key := by
  rw [h.state]
  by_cases hkey : key = other
  · subst hkey
    refine ⟨fun huntouched => ?_, fun hinitialised => ⟨hinitialised.supply, fun hempty => ?_⟩⟩
    · have henough := h.enough
      rw [huntouched.reserves.1] at henough
      exact absurd (Nat.le_zero.mp henough) h.nonzero
    · have hvalidator : (s.pools key).reserveValidatorToken + amountIn = 0 := by
        simpa [setPool] using hempty.2
      rw [h.input] at hvalidator
      exact Nat.succ_ne_zero _ hvalidator
  · refine advances_of_same ?_ rfl rfl
    simp [setPool, hkey]

/-- A fee swap that is not of a single unit into an untouched pool. -/
theorem Swapped.advances (h : Swapped s s' other amountIn amountOut)
    (hdust : amountIn = 1 → s.totalSupply other ≠ 0) : Advances s s' key := by
  have houtput := h.output
  have henough := h.enough
  rw [h.state]
  by_cases hkey : key = other
  · subst hkey
    refine ⟨fun huntouched => .inl ⟨huntouched.supply, ?_, huntouched.balances⟩,
      fun hinitialised => ⟨hinitialised.supply, fun hempty => hinitialised.reserves ?_⟩⟩
    · have hinput : amountIn ≠ 1 := fun hone => hdust hone huntouched.supply
      obtain ⟨huser, hvalidator⟩ := huntouched.reserves
      simp only [M, scale] at houtput
      have hnothing : amountIn = 0 := by omega
      simp [Pool.isEmpty, setPool, huser, hvalidator, hnothing]
    · simp only [Pool.isEmpty, setPool, update_self] at hempty
      simp only [M, scale] at houtput
      refine ⟨?_, ?_⟩
      · omega
      · omega
  · refine advances_of_same ?_ rfl rfl
    simp [setPool, hkey]

theorem CallStep.advances {call : Call} (h : CallStep s call s') : Advances s s' key := by
  cases h with
  | minted deposited => exact deposited.advances
  | burned withdrawn => exact withdrawn.advances
  | rebalanced rebalanced => exact rebalanced.advances
  | distributed paid =>
    rw [paid.state]
    exact advances_of_same rfl rfl rfl
  | nothing | chosen => exact advances_of_same rfl rfl rfl

/-- No fee swap of a single unit goes into a pool without supply. -/
def Dustless (charged : Option Charge) (s : FeeState) : Action → Prop
  | .postTx actualSpending => ∀ charge, charged = some charge →
      ∀ swap ∈ feeSwaps charge.feeToken s.twoHopIntermediate
        (s.getValidatorToken charge.beneficiary) actualSpending,
      swap.2 = 1 → s.totalSupply swap.1 ≠ 0
  | _ => True

theorem Settlement.advances {feeToken hopToken validatorToken : Address}
    {actualSpending credited : ℕ}
    (h : Settlement feeToken hopToken validatorToken actualSpending s credited s')
    (hdust : ∀ swap ∈ feeSwaps feeToken hopToken validatorToken actualSpending,
      swap.2 = 1 → s.totalSupply swap.1 ≠ 0) : Advances s s' key := by
  cases h with
  | sameToken | unspent => exact advances_of_same rfl rfl rfl
  | direct hother hop spent swap =>
    refine swap.advances fun hone => hdust (⟨feeToken, validatorToken⟩, actualSpending) ?_ hone
    simp [feeSwaps, hother, spent, hop]
  | @twoHop out1 _ t _ hother hop spent first second =>
    have hfirst : Advances s t key := by
      refine first.advances fun hone => hdust (⟨feeToken, hopToken⟩, actualSpending) ?_ hone
      simp [feeSwaps, hother, spent, hop]
    have hsupply : t.totalSupply = s.totalSupply := by
      rw [first.state]
      rfl
    refine hfirst.trans (second.advances fun hone => ?_)
    rw [hsupply]
    refine hdust (⟨hopToken, validatorToken⟩, out1) ?_ hone
    rw [first.output]
    simp [feeSwaps, hother, spent, hop]

theorem Step.advances {charged charged' : Option Charge} {action : Action}
    (hstep : Step ctx charged s action charged' s') (hdust : Dustless charged s action) :
    Advances s s' key := by
  cases hstep with
  | call run => exact (Call.step run).advances
  | preTx run =>
    have hcharged := collectFeePreTx_ok run
    exact advances_of_same (by rw [hcharged.pools]; rfl) (by rw [hcharged.totalSupply]; rfl)
      (by rw [hcharged.liquidityBalances]; rfl)
  | @postTx _ _ charge actualSpending refund credited spent run =>
    obtain ⟨t, t', hrefunded, hsettlement, hcredit⟩ := (collectFeePostTx_ok run).steps
    have hfirst : Advances s t key ∧ t.totalSupply = s.totalSupply := by
      cases hrefunded with
      | nothing | paid => exact ⟨advances_of_same rfl rfl rfl, rfl⟩
    have hsecond : Advances t t' key := by
      refine hsettlement.advances fun swap hmem hone => ?_
      rw [hfirst.2]
      exact hdust charge rfl swap hmem hone
    have hthird : Advances t' s' key := by
      rcases hcredit with ⟨-, rfl⟩ | rfl
      · exact advances_of_same rfl rfl rfl
      · exact advances_of_same rfl rfl rfl
    exact hfirst.1.trans (hsecond.trans hthird)

theorem Run.advances {charged₀ charged : Option Charge} {start : FeeState}
    (run : Run Dustless charged₀ start charged s) : Advances start s key := by
  induction run with
  | start => exact advances_of_same rfl rfl rfl
  | step run allows step ih => exact ih.trans (step.advances allows)

theorem Initialised.supply_ne_zero (h : Initialised s key) : s.totalSupply key ≠ 0 := by
  obtain ⟨shares, -, hsupply⟩ := h.supply
  rw [hsupply, minLiquidity]
  omega

/-- Without fee swaps of a single unit into pools without supply: in every reachable state every
pool is untouched, or its supply is the locked shares and those of its holders and its reserves
are not both zero.  Once initialised, a pool stays so whatever happens later, and the locked
shares are added by the first deposit only. -/
theorem pools_accounted {tokens : Address → Tip20.TokenState} {charged : Option Charge}
    (run : Run Dustless none (.fresh tokens) charged s) (key : PoolKey) :
    (Untouched s key ∨ Initialised s key) ∧
      (∀ charged' s', Run Dustless charged s charged' s' → Initialised s key →
        Initialised s' key) ∧
      ∀ (ctx : Context) (sender : Address) (amount : ℕ) (dest : Address) (liquidity : ℕ)
        (s' : FeeState),
        mint ctx sender key.userToken key.validatorToken amount dest s = .ok liquidity s' →
        s'.totalSupply key = s.totalSupply key + liquidity +
          if s.totalSupply key = 0 then minLiquidity else 0 := by
  have hpool : Untouched s key ∨ Initialised s key :=
    run.advances.untouched ⟨rfl, ⟨rfl, rfl⟩, fun _ => rfl⟩
  refine ⟨hpool, fun charged' s' later => later.advances.initialised, ?_⟩
  intro ctx sender amount dest liquidity s' hmint
  obtain ⟨-, -, supply, hshares, hsupply⟩ := (mint_ok hmint).after
  rw [hsupply]
  rcases hpool with huntouched | hinitialised
  · rw [if_pos huntouched.supply]
    cases hshares with
    | first empty covers => exact Nat.add_right_comm _ _ _
    | later reserves worth => exact absurd huntouched.reserves reserves
  · rw [if_neg hinitialised.supply_ne_zero]
    cases hshares with
    | first empty covers => exact absurd empty hinitialised.reserves
    | later reserves worth => rfl

/-- The pool of the samples. -/
def samplePool : PoolKey := ⟨pathUsdAddress + 1, pathUsdAddress⟩

/-- A deposit, a transaction that pays 500 through the pool, and a withdrawal of a quarter of the
shares. -/
theorem pools_accounted_cycle :
    ∃ s, Run Dustless none sampleState none s ∧ s.totalSupply samplePool = 4000 ∧
      Initialised s samplePool := by
  have hreturned : returned ((do
      (Call.mint 7 (pathUsdAddress + 1) pathUsdAddress 10000 7).run (.permissive .T8)
      modify clearTransient
      let _ ← collectFeePreTx (.permissive .T8) 7 (pathUsdAddress + 1) 600 9 false
      let _ ← collectFeePostTx (.permissive .T8) 7 500 100 (pathUsdAddress + 1) 9
      (Call.burn 7 (pathUsdAddress + 1) pathUsdAddress 1000 7).run (.permissive .T8)
      let s ← get
      require (s.totalSupply samplePool = 4000) .underOverflow : FeeM Unit) sampleState) =
        true := by
    decide +kernel
  obtain ⟨_, s, hrun⟩ := returned_iff.mp hreturned
  obtain ⟨_, s₁, hmint, hrun⟩ := bind_ok.mp hrun
  rw [modify_bind_ok] at hrun
  obtain ⟨_, s₂, hpre, hrun⟩ := bind_ok.mp hrun
  obtain ⟨_, s₃, hpost, hrun⟩ := bind_ok.mp hrun
  obtain ⟨_, s₄, hburn, hrun⟩ := bind_ok.mp hrun
  obtain ⟨hsupply, rfl⟩ := require_ok.mp hrun
  let charge : Charge := ⟨7, pathUsdAddress + 1, 600, 9⟩
  have hdustless : Dustless (some charge) s₂ (.postTx 500) := by
    rintro charge - swap hmem hone
    have hinput : swap.2 = 500 ∨ swap.2 = 500 * M / scale := by
      unfold feeSwaps at hmem
      split at hmem
      · exact nomatch hmem
      · split at hmem
        · exact .inl (congrArg Prod.snd (List.mem_singleton.mp hmem))
        · rcases List.mem_pair.mp hmem with rfl | rfl
          · exact .inl rfl
          · exact .inr rfl
    rw [hone] at hinput
    exact absurd hinput (by decide)
  have hdeposited : Run Dustless none sampleState none s₁ :=
    .step .start (show Dustless _ _ (.call _) from trivial) (.call hmint)
  have hcharged : Run Dustless none sampleState (some charge) s₂ :=
    .step hdeposited (show Dustless _ _ (.preTx charge false) from trivial) (.preTx hpre)
  have hsettled : Run Dustless none sampleState none s₃ :=
    .step hcharged hdustless (.postTx rfl hpost)
  have hreach : Run Dustless none sampleState none s₄ :=
    .step hsettled (show Dustless _ _ (.call _) from trivial) (.call hburn)
  refine ⟨s₄, hreach, hsupply, ?_⟩
  rcases (pools_accounted hreach samplePool).1 with huntouched | hinitialised
  · exact absurd (huntouched.supply.symm.trans hsupply) (by decide)
  · exact hinitialised

/-- A transaction that spends a single unit swaps it into an untouched pool.  The pool then has
a reserve but no supply, and every deposit fails. -/
theorem pools_accounted_dust :
    ∃ s, Run (fun _ _ _ => True) none sampleState none s ∧ s.totalSupply samplePool = 0 ∧
      ¬ (s.pools samplePool).isEmpty ∧
      ∀ (ctx : Context) (sender : Address) (amount : ℕ) (dest : Address) (liquidity : ℕ)
        (s' : FeeState),
        mint ctx sender samplePool.userToken samplePool.validatorToken amount dest s ≠
          .ok liquidity s' := by
  have hreturned : returned ((do
      let _ ← collectFeePreTx (.permissive .T8) 7 (pathUsdAddress + 1) 1 9 false
      let _ ← collectFeePostTx (.permissive .T8) 7 1 0 (pathUsdAddress + 1) 9
      let s ← get
      require (s.totalSupply samplePool = 0 ∧ (s.pools samplePool).reserveUserToken = 1)
        .underOverflow : FeeM Unit) sampleState.clearTransient) = true := by
    decide +kernel
  obtain ⟨_, s, hrun⟩ := returned_iff.mp hreturned
  obtain ⟨_, s₁, hpre, hrun⟩ := bind_ok.mp hrun
  obtain ⟨_, s₂, hpost, hrun⟩ := bind_ok.mp hrun
  obtain ⟨⟨hsupply, hreserve⟩, rfl⟩ := require_ok.mp hrun
  have hempty : ¬ (s₂.pools samplePool).isEmpty := by
    intro hempty
    rw [hempty.1] at hreserve
    exact nomatch hreserve
  let charge : Charge := ⟨7, pathUsdAddress + 1, 1, 9⟩
  have hcharged : Run (fun _ _ _ => True) none sampleState (some charge) s₁ :=
    .step .start trivial (.preTx hpre)
  refine ⟨s₂, .step hcharged trivial (.postTx rfl hpost), hsupply, hempty, ?_⟩
  intro ctx sender amount dest liquidity s' hmint
  have hdeposited := mint_ok hmint
  obtain ⟨-, -, supply, hshares, -⟩ := hdeposited.after
  have hliquidity := hdeposited.shares
  cases hshares with
  | first empty covers => exact hempty empty
  | later reserves worth =>
    refine hliquidity ?_
    rw [hsupply, Nat.mul_zero, Nat.zero_div]

end Monotempo.FeeAmm
