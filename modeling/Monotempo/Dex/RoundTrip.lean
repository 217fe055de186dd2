/-
  An exact-in quote gives back what an exact-out quote asks for.

  An exact-out quote names the input for a wanted output.  Offered that input, an
  exact-in quote on the same book takes the same orders: it rounds every order the other
  way, but never below the output that order had to deliver, and it carries to the next
  order exactly the input counted there.  On the ask side the step to the next order
  rests on the price order of the ticks.
-/
import Mathlib.Tactic.Linarith
import Monotempo.Dex.Quote
import Monotempo.Dex.Solvency

set_option autoImplicit false

namespace Monotempo.Dex

open Chain Foundation

/-- `MIN_PRICE`. -/
def minPrice : ℕ := 98000

/-! ## One order -/

section Step

variable {order : Order} {st : OrderStep} {amount fill rest : ℕ}

/-- The price of the order's tick is in range. -/
def Order.Priced (order : Order) : Prop :=
  minPrice ≤ tickToPrice order.tick ∧ tickToPrice order.tick ≤ 102000

theorem Order.Priced.pos (h : order.Priced) : 0 < tickToPrice order.tick :=
  Nat.lt_of_lt_of_le (by decide) h.1

theorem le_baseAffordable (hprice : order.Priced) (h : makerAmount order fill ≤ amount) :
    fill ≤ baseAffordable order amount := by
  unfold makerAmount at h
  unfold baseAffordable
  split
  · rename_i hside
    rw [if_pos hside] at h
    exact h
  · rename_i hside
    rw [if_neg hside] at h
    rw [Nat.le_div_iff_mul_le hprice.pos]
    unfold quoteCeil divCeil at h
    unfold priceScale at *
    omega

theorem baseNeeded_le (hprice : order.Priced) (h : amount ≤ takerAmount order fill) :
    baseNeeded order amount ≤ fill := by
  unfold takerAmount at h
  unfold baseNeeded
  split
  · rename_i hside
    rw [if_pos hside] at h
    have hworth := (Nat.le_div_iff_mul_le (by decide)).mp h
    unfold divCeil
    rw [← Nat.lt_add_one_iff, Nat.div_lt_iff_lt_mul hprice.pos, Nat.add_mul]
    have := hprice.pos
    omega
  · rename_i hside
    rw [if_neg hside] at h
    exact h

theorem takerAmount_mono (order : Order) {a b : ℕ} (h : a ≤ b) :
    takerAmount order a ≤ takerAmount order b := by
  unfold takerAmount
  split
  · exact Nat.div_le_div_right (Nat.mul_le_mul_right _ h)
  · exact h

theorem makerAmount_succ_le (order : Order) (fill : ℕ) :
    makerAmount order (fill + 1) ≤ makerAmount order fill + makerAmount order 1 := by
  unfold makerAmount
  split
  · exact le_rfl
  · unfold quoteCeil divCeil priceScale
    rw [Nat.add_mul]
    omega

theorem makerAmount_one_pos (hprice : order.Priced) : 0 < makerAmount order 1 := by
  have := hprice.pos
  unfold makerAmount
  split
  · exact Nat.one_pos
  · unfold quoteCeil divCeil priceScale
    omega

/-- No fill brings more than the lowest price allows. -/
theorem takerAmount_bounded (hprice : order.Priced) (fill : ℕ) :
    takerAmount order fill * minPrice ≤ makerAmount order fill * priceScale := by
  unfold takerAmount makerAmount
  split
  · have hfloor := Nat.div_mul_le_self (fill * tickToPrice order.tick) priceScale
    have hmax := Nat.mul_le_mul_left fill hprice.2
    unfold quoteFloor minPrice
    unfold priceScale at *
    linarith
  · have hmin := Nat.mul_le_mul_left fill hprice.1
    unfold quoteCeil divCeil priceScale
    omega

/-- What an input brings at the lowest price fits if the input is in range. -/
theorem le_u128Max {got value : ℕ} (h : got * minPrice ≤ value)
    (hfits : value ≤ minPrice * u128Max) : got ≤ u128Max := by
  refine Nat.le_of_mul_le_mul_left ?_ (show 0 < minPrice by decide)
  rw [Nat.mul_comm]
  exact h.trans hfits

/-- An exact-in step with an input in range does not overflow. -/
theorem stepExactIn_returns (hprice : order.Priced)
    (hfits : amount * priceScale ≤ minPrice * u128Max) :
    ∃ st, stepExactIn amount order order.isBid = some st := by
  have hamount : amount ≤ u128Max := le_u128Max (Nat.mul_le_mul_left _ (by decide)) hfits
  unfold stepExactIn takerOutput
  cases hside : order.isBid with
  | true =>
    have hoffer := Nat.mul_le_mul_right priceScale (Nat.min_le_left amount order.remaining)
    have houtput := takerAmount_bounded hprice (min amount order.remaining)
    unfold takerAmount makerAmount at houtput
    simp only [hside, if_true, Option.bind_eq_bind, Option.bind_some] at houtput ⊢
    exact ⟨_, Option.bind_eq_some_iff.mpr ⟨_, toU128_eq_some.mpr
      ⟨rfl, le_u128Max houtput (hoffer.trans hfits)⟩, rfl⟩⟩
  | false =>
    have hpaid := Nat.div_mul_le_self (amount * priceScale) (tickToPrice order.tick)
    have hbase : amount * priceScale / tickToPrice order.tick ≤ u128Max :=
      le_u128Max ((Nat.mul_le_mul_left _ hprice.1).trans hpaid) hfits
    have hcost : order.remaining < baseAffordable order amount →
        makerAmount order order.remaining ≤ amount := fun hmore =>
      (makerAmount_mono order hmore.le).trans (makerAmount_baseAffordable order amount)
    unfold makerAmount baseAffordable at hcost
    simp only [hside, Bool.false_eq_true, if_false, Option.bind_eq_bind] at hcost ⊢
    rw [show quoteToBase amount order.tick .down =
      some (amount * priceScale / tickToPrice order.tick) from toU128_eq_some.mpr ⟨rfl, hbase⟩,
      Option.bind_some]
    split
    · rename_i hmore
      have hle := hcost hmore
      exact ⟨_, Option.bind_eq_some_iff.mpr ⟨_, toU128_eq_some.mpr ⟨rfl, hle.trans hamount⟩,
        Option.bind_eq_some_iff.mpr ⟨_, checkedSub_eq_some.mpr ⟨hle, rfl⟩, rfl⟩⟩⟩
    · exact ⟨_, rfl⟩

/-- The exact-in step `st'` answers the exact-out step `st`: offered what that step counted
and what was counted behind it, it carries on the latter and delivers at least what was asked
of this order, and at most what the lowest price allows. -/
structure Answers (order : Order) (amount : ℕ) (st : OrderStep) (rest : ℕ) (st' : OrderStep) :
    Prop where
  next_eq : st'.nextAmount = rest
  full : rest ≠ 0 → order.remaining ≤ st'.fillAmount
  delivers : amount ≤ st'.accumulate + st.nextAmount
  bounded : st'.accumulate * minPrice ≤ st.accumulate * priceScale

theorem stepExactIn_answers (hprice : order.Priced)
    (h : stepExactOut amount order order.isBid = some st)
    (hlast : st.nextAmount = 0 → rest = 0)
    (hmore : st.nextAmount ≠ 0 → makerAmount order 1 ≤ rest)
    (hfits : (st.accumulate + rest) * priceScale ≤ minPrice * u128Max) :
    ∃ st', stepExactIn (st.accumulate + rest) order order.isBid = some st' ∧
      Answers order amount st rest st' := by
  obtain ⟨st', hstep⟩ := stepExactIn_returns hprice hfits
  obtain ⟨_, hcount, hcarried, hended⟩ := stepExactOut_steps h
  obtain ⟨hfill', hgain', hcarried', hended'⟩ := stepExactIn_steps hstep
  refine ⟨st', hstep, ?_⟩
  rcases Nat.lt_or_ge order.remaining (baseNeeded order amount) with hless | hless
  · -- What is counted behind the order pays for at least one more unit of it.
    rw [Nat.min_eq_right hless.le] at hcount
    have hnext : st.nextAmount ≠ 0 := fun hzero =>
      absurd (baseNeeded_le hprice ((hcarried hless).ge.trans (by rw [hzero]; rfl))) hless.not_ge
    have hbeyond : order.remaining < baseAffordable order (st.accumulate + rest) := by
      refine le_baseAffordable hprice ((makerAmount_succ_le order _).trans ?_)
      rw [hcount]
      exact Nat.add_le_add_left (hmore hnext) _
    rw [Nat.min_eq_right hbeyond.le] at hfill' hgain'
    have hcarry := hcarried' hbeyond
    refine ⟨by omega, fun _ => hfill'.ge, ?_, ?_⟩
    · rw [hgain', hcarried hless]
    · rw [hgain', hcount]
      exact takerAmount_bounded hprice _
  · obtain rfl := hlast (hended hless)
    rw [Nat.min_eq_left hless] at hcount
    rw [Nat.add_zero] at hfill' hgain' hcarried' hended'
    have henough : baseNeeded order amount ≤ baseAffordable order st.accumulate :=
      le_baseAffordable hprice hcount.ge
    refine ⟨?_, fun hne => absurd rfl hne, ?_, ?_⟩
    · rcases Nat.lt_or_ge order.remaining (baseAffordable order st.accumulate) with hmost | hmost
      · have hcarry := hcarried' hmost
        have hcost := makerAmount_mono order hless
        omega
      · exact hended' hmost
    · rw [hgain', hended hless]
      exact (le_takerAmount_baseNeeded hprice.pos amount).trans
        (takerAmount_mono order (Nat.le_min.mpr ⟨henough, hless⟩))
    · rw [hgain']
      refine (takerAmount_bounded hprice _).trans (Nat.mul_le_mul_right _ ?_)
      exact (makerAmount_mono order (Nat.min_le_left _ _)).trans
        (makerAmount_baseAffordable order _)

/-- An exact-out step counts at least the price of a unit. -/
theorem stepExactOut_counts (hprice : order.Priced)
    (h : stepExactOut amount order order.isBid = some st) (hamount : amount ≠ 0)
    (hremaining : 0 < order.remaining) : makerAmount order 1 ≤ st.accumulate := by
  have hworth := le_takerAmount_baseNeeded hprice.pos amount
  rw [(stepExactOut_steps h).accumulate]
  refine makerAmount_mono order (Nat.le_min.mpr ⟨Nat.one_le_iff_ne_zero.mpr fun hzero => ?_,
    hremaining⟩)
  rw [hzero] at hworth
  unfold takerAmount quoteFloor at hworth
  simp at hworth
  exact hamount hworth

end Step

/-! ## The walk -/

section Walk

variable [BookHash] {ctx : Context} {q q' : DexState} {bookKey : B256} {isBid : Bool}
  {queues : Queues} {step : ℕ → Order → Bool → Option OrderStep} {order : Order}
  {fuel id amount total result : ℕ} {before after : List ℕ}

omit [BookHash] in
/-- A unit of the next order in priority costs no less. -/
theorem SideOk.unit_mono {v : SideView} (h : SideOk v bookKey isBid queues) {next : ℕ}
    (hpriority : priority isBid queues = before ++ id :: next :: after) :
    makerAmount (v.order id) 1 ≤ makerAmount (v.order next) 1 := by
  obtain ⟨tick, hmem⟩ := (mem_priority h.range).mp
    (show id ∈ priority isBid queues by rw [hpriority]; simp)
  obtain ⟨left, right, hqueue⟩ := List.append_of_mem hmem
  obtain ⟨worse, hafter, _, hworse⟩ := h.priority_after hqueue hpriority
  obtain ⟨t, hmem', hle⟩ : ∃ t, next ∈ queues t ∧ (isBid = false → tick ≤ t) := by
    have hnext : next ∈ right ++ worse.flatMap queues := by
      rw [← hafter]
      exact List.mem_cons_self
    rcases List.mem_append.mp hnext with hright | hlater
    · exact ⟨tick, by rw [hqueue]; simp [hright], fun _ => le_rfl⟩
    · obtain ⟨t, ht, hmem'⟩ := List.mem_flatMap.mp hlater
      refine ⟨t, hmem', ?_⟩
      rintro rfl
      exact ((hworse t).mp ht).1.le
  have hfirst := h.resting tick id hmem
  have hsecond := h.resting t next hmem'
  unfold makerAmount quoteCeil divCeil tickToPrice priceScale
  rw [hfirst.isBid_eq, hsecond.isBid_eq, hfirst.tick_eq, hsecond.tick_eq]
  split
  · exact le_rfl
  · rename_i hside
    have := hle (Bool.eq_false_of_not_eq_true hside)
    omega

omit [BookHash] in
theorem SideOk.priced {v : SideView} (h : SideOk v bookKey isBid queues) {tick : ℤ}
    (hmem : id ∈ queues tick) : (v.order id).Priced := by
  obtain ⟨hmin, hmax⟩ := h.range tick (List.ne_nil_of_mem hmem)
  unfold Order.Priced tickToPrice minPrice
  unfold minTick at hmin
  unfold maxTick at hmax
  rw [(h.resting tick id hmem).tick_eq]
  omega

omit [BookHash] in
theorem walkRestingOrders_zero {σ : Type}
    {settle : Order → Fill → EStateM Error σ (Option Order)} {w : σ} :
    walkRestingOrders step isBid settle fuel order 0 total w = .ok total w := by
  cases fuel with
  | zero | succ => rfl

omit [BookHash] in
/-- A round that returns found its step, and the total fits. -/
theorem walkRestingOrders_step {σ : Type} {settle : Order → Fill → EStateM Error σ (Option Order)}
    {w w' : σ} (hamount : amount ≠ 0)
    (h : walkRestingOrders step isBid settle (fuel + 1) order amount total w = .ok result w') :
    ∃ st, step amount order isBid = some st ∧ total + st.accumulate ≤ u128Max := by
  rw [walkRestingOrders, if_neg hamount, bind_ok] at h
  obtain ⟨st, _, hst, h⟩ := h
  refine ⟨st, (okOr_ok.mp hst).1, ?_⟩
  split at h
  · obtain ⟨_, _, _, hadd⟩ := bind_ok.mp h
    exact (checkedAdd128_eq_some.mp (okOr_ok.mp hadd).1).2
  · obtain ⟨_, _, _, h⟩ := bind_ok.mp h
    obtain ⟨_, _, hadd, _⟩ := bind_ok.mp h
    exact (checkedAdd128_eq_some.mp (okOr_ok.mp hadd).1).2

/-- One round of a quote: the order in hand ends the trade, or the walk goes on with the
next order in priority. -/
theorem quoteWalk_eq (hwalk : Walkable q bookKey isBid queues)
    (hpriority : priority isBid queues = before ++ id :: after) (hamount : amount ≠ 0)
    {st : OrderStep} (hstep : step amount (q.orders id).order isBid = some st)
    (hfits : total + st.accumulate ≤ u128Max) :
    walkRestingOrders step isBid (quoteFill ctx bookKey isBid) (fuel + 1) (q.orders id).order
        amount total q =
      if st.fillAmount < (q.orders id).order.remaining ∨ st.nextAmount = 0 then
        .ok (total + st.accumulate) q
      else
        after.head?.elim (.error (.dex .insufficientLiquidity) q) fun next =>
          walkRestingOrders step isBid (quoteFill ctx bookKey isBid) fuel (q.orders next).order
            st.nextAmount (total + st.accumulate) q := by
  have hadd : (okOr (checkedAdd128 total st.accumulate) .underOverflow : DexM ℕ) q =
      .ok (total + st.accumulate) q :=
    okOr_ok.mpr ⟨checkedAdd128_eq_some.mpr ⟨rfl, hfits⟩, rfl⟩
  have hcursor : quoteFill ctx bookKey isBid (q.orders id).order .full q = _ :=
    nextOrderAfter_priority hwalk hpriority
  rw [walkRestingOrders, if_neg hamount, bind_eq_of_ok (okOr_ok.mpr ⟨hstep, rfl⟩)]
  split
  · rename_i hless
    rw [if_pos (.inl hless)]
    exact hadd
  · rename_i hfull
    rw [bind_eq_of_ok hcursor, bind_eq_of_ok hadd]
    by_cases hzero : st.nextAmount = 0
    · have hended : st.fillAmount < (q.orders id).order.remaining ∨ st.nextAmount = 0 := .inr hzero
      rw [if_pos hended, hzero]
      cases after with
      | nil => rfl
      | cons next rest => exact walkRestingOrders_zero
    · have hopen : ¬ (st.fillAmount < (q.orders id).order.remaining ∨ st.nextAmount = 0) :=
        fun h => h.elim hfull hzero
      rw [if_neg hopen]
      cases after with
      | nil =>
        show (if 0 < st.nextAmount then _ else _ : DexM ℕ) q = _
        rw [if_pos (Nat.pos_of_ne_zero hzero)]
        rfl
      | cons next rest => rfl

/-- The exact-in walk over the orders of an exact-out walk, offered the input `paid` that
one has counted from here on. -/
theorem quoteWalk_answers (hwalk : Walkable q bookKey isBid queues) :
    ∀ {fuel id amount total result : ℕ} {before after : List ℕ},
      priority isBid queues = before ++ id :: after → amount ≠ 0 →
      walkRestingOrders stepExactOut isBid (quoteFill ctx bookKey isBid) fuel (q.orders id).order
        amount total q = .ok result q' →
      ∃ paid, result = total + paid ∧ makerAmount (q.orders id).order 1 ≤ paid ∧
        ∀ got, got * minPrice + paid * priceScale ≤ minPrice * u128Max →
          ∃ more, amount ≤ more ∧
            walkRestingOrders stepExactIn isBid (quoteFill ctx bookKey isBid) fuel
              (q.orders id).order paid got q = .ok (got + more) q := by
  intro fuel
  induction fuel with
  | zero =>
    intro id amount total result before after _ hamount hrun
    rw [walkRestingOrders, if_neg hamount] at hrun
    exact (throw_ok.mp hrun).elim
  | succ fuel ih =>
    intro id amount total result before after hpriority hamount hrun
    obtain ⟨st, hstep, hfits⟩ := walkRestingOrders_step hamount hrun
    rw [quoteWalk_eq hwalk hpriority hamount hstep hfits] at hrun
    obtain ⟨tick, hmem⟩ := (mem_priority hwalk.side.range).mp
      (show id ∈ priority isBid queues by rw [hpriority]; simp)
    have hresting := hwalk.side.resting tick id hmem
    have hside : (q.orders id).order.isBid = isBid := hresting.isBid_eq
    have hprice : (q.orders id).order.Priced := hwalk.side.priced hmem
    rw [← hside] at hstep
    have hunit := stepExactOut_counts hprice hstep hamount hresting.remaining_pos
    have hpositive := makerAmount_one_pos hprice
    -- The round of the exact-in walk at this order, when `rest` is counted behind it.
    have hround : ∀ {rest got : ℕ}, (st.nextAmount = 0 → rest = 0) →
        (st.nextAmount ≠ 0 → makerAmount (q.orders id).order 1 ≤ rest) →
        got * minPrice + (st.accumulate + rest) * priceScale ≤ minPrice * u128Max →
        ∃ st', stepExactIn (st.accumulate + rest) (q.orders id).order isBid = some st' ∧
          Answers (q.orders id).order amount st rest st' ∧ got + st'.accumulate ≤ u128Max ∧
          (got + st'.accumulate) * minPrice + rest * priceScale ≤ minPrice * u128Max := by
      intro rest got hlast hmore hbudget
      obtain ⟨st', hstep', hanswers⟩ := stepExactIn_answers hprice hstep hlast hmore
        ((Nat.le_add_left _ _).trans hbudget)
      rw [hside] at hstep'
      have hbounded := hanswers.bounded
      have hbudget' : (got + st'.accumulate) * minPrice + rest * priceScale ≤
          minPrice * u128Max := by
        rw [Nat.add_mul] at hbudget ⊢
        omega
      exact ⟨st', hstep', hanswers, le_u128Max le_rfl ((Nat.le_add_right _ _).trans hbudget'),
        hbudget'⟩
    by_cases hzero : st.nextAmount = 0
    · rw [if_pos (.inr hzero)] at hrun
      obtain ⟨rfl, rfl⟩ := EStateM.Result.ok.inj hrun
      refine ⟨st.accumulate, rfl, hunit, fun got hbudget => ?_⟩
      obtain ⟨st', hstep', hanswers, hfits', _⟩ := @hround 0 got (fun _ => rfl)
        (fun hne => absurd hzero hne) hbudget
      rw [Nat.add_zero] at hstep'
      have hwalked := @quoteWalk_eq _ ctx _ _ _ _ stepExactIn fuel id _ got _ _ hwalk hpriority
        (by omega) st' hstep' hfits'
      refine ⟨st'.accumulate, by have := hanswers.delivers; omega, ?_⟩
      rw [hwalked, if_pos (.inr hanswers.next_eq)]
    · have hpart : ¬ (st.fillAmount < (q.orders id).order.remaining ∨ st.nextAmount = 0) :=
        fun h => h.elim (fun hless => hzero ((stepExactOut_settles hprice.pos hstep).1 hless)) hzero
      rw [if_neg hpart] at hrun
      cases after with
      | nil => exact nomatch hrun
      | cons next after =>
        have hpriority' : priority isBid queues = (before ++ [id]) ++ next :: after := by
          rw [hpriority, List.append_assoc]
          rfl
        obtain ⟨rest, hresult, hunit', hanswer⟩ := ih hpriority' hzero hrun
        have hmore := (hwalk.side.unit_mono hpriority).trans hunit'
        have hrest : rest ≠ 0 := (Nat.lt_of_lt_of_le hpositive hmore).ne'
        refine ⟨st.accumulate + rest, by omega, by omega, fun got hbudget => ?_⟩
        obtain ⟨st', hstep', hanswers, hfits', hbudget'⟩ := hround (fun h => absurd h hzero)
          (fun _ => hmore) hbudget
        obtain ⟨more, hmost, hwalked'⟩ := hanswer _ hbudget'
        have hopen : ¬ (st'.fillAmount < (q.orders id).order.remaining ∨
            st'.nextAmount = 0) := by
          rw [hanswers.next_eq]
          exact fun h => h.elim (hanswers.full hrest).not_gt hrest
        have hwalked := @quoteWalk_eq _ ctx _ _ _ _ stepExactIn fuel id _ got _ _ hwalk
          hpriority (by omega) st' hstep' hfits'
        refine ⟨st'.accumulate + more, by have := hanswers.delivers; omega, ?_⟩
        rw [hwalked, if_neg hopen, hanswers.next_eq, ← Nat.add_assoc]
        exact hwalked'

/-- From T12 on, on every well-formed side of a book: if an exact-out quote of `amount`
costs `paid`, and `paid` converted at the lowest price fits its type, then the exact-in
quote of `paid` succeeds and returns at least `amount`. -/
theorem quote_round_trip {listing : Listing} {paid : ℕ} (hspec : ctx.spec.isT12 = true)
    (hlisted : Listed q listing) (hbook : (q.books bookKey).isInitialized = true)
    (hquote : quoteExactOut ctx bookKey amount isBid q = .ok paid q')
    (hfits : paid * priceScale ≤ minPrice * u128Max) :
    ∃ got, amount ≤ got ∧ quoteExactIn ctx bookKey paid isBid q = .ok got q := by
  unfold quoteExactOut at hquote
  unfold quoteExactIn
  rw [if_pos hspec] at hquote ⊢
  unfold quotePerOrder at hquote ⊢
  obtain ⟨level, t, hbest, hquote⟩ := bind_ok.mp hquote
  obtain ⟨order, u, hread, hrun⟩ := bind_ok.mp hquote
  have hlevel := hbest
  unfold getBestPriceLevel at hlevel
  simp only [bind_ok, get_ok, require_ok] at hlevel
  obtain ⟨_, _, ⟨rfl, rfl⟩, _, _, ⟨htick, rfl⟩, hlevel⟩ := hlevel
  obtain ⟨rfl, rfl⟩ := readLevel_ok hlevel
  obtain ⟨rfl, rfl⟩ := readOrderInBook_ok.mp hread
  rw [bind_eq_of_ok (get_ok.mpr ⟨rfl, rfl⟩)] at hrun
  rw [bind_eq_of_ok hbest, bind_eq_of_ok hread, bind_eq_of_ok (get_ok.mpr ⟨rfl, rfl⟩)]
  have hwalk := hlisted.walkable hbook isBid
  have hcursor := hwalk.cursor ctx.spec rfl (hwalk.best.ne_nil htick)
  obtain ⟨rest, hqueue⟩ := Cursor.first hcursor
  have hpriority := Cursor.priority_eq_cons hcursor hqueue
  have horder := Cursor.order_eq hcursor
  rw [← horder] at hrun ⊢
  by_cases hzero : amount = 0
  · subst hzero
    rw [walkRestingOrders_zero] at hrun
    obtain ⟨rfl, _⟩ := EStateM.Result.ok.inj hrun
    exact ⟨0, le_rfl, walkRestingOrders_zero⟩
  · rw [← List.nil_append (_ :: _)] at hpriority
    obtain ⟨paid', rfl, _, hanswer⟩ := quoteWalk_answers hwalk hpriority hzero hrun
    rw [Nat.zero_add] at hfits ⊢
    obtain ⟨more, hmore, hback⟩ := hanswer 0 (by rw [Nat.zero_mul, Nat.zero_add]; exact hfits)
    rw [Nat.zero_add] at hback
    exact ⟨more, hmore, hback⟩

end Walk

/-- 1800 units of the ladder cost 1803 with every order rounded up, and 1803 buy at least 1800. -/
theorem quote_round_trip_ladder :
    letI := BookHash.pairing
    let ctx : Context := ⟨.T12, .permissive 6, 0⟩
    let key := computeBookKey 5 6
    let s := stockedDex 5 6 (ladder key)
    ∃ got s', quoteExactOut ctx key 1800 false s = .ok 1803 s' ∧
      1800 ≤ got ∧ quoteExactIn ctx key 1803 false s = .ok got s := by
  let := BookHash.pairing
  intro ctx key s
  have hreturned : returned ((quoteExactOut ctx key 1800 false >>= fun paid =>
      require (paid = 1803) .underOverflow) s) = true := by decide +kernel
  obtain ⟨_, _, hrun⟩ := returned_iff.mp hreturned
  obtain ⟨paid, s', hquote, hpaid⟩ := bind_ok.mp hrun
  obtain ⟨rfl, _⟩ := require_ok.mp hpaid
  obtain ⟨hlisted, hbook, -⟩ := @listed_stocked _ 5 6 (by decide) (ladder key) (by decide)
    (by decide)
  obtain ⟨got, hmore, hback⟩ := quote_round_trip rfl hlisted hbook hquote (by decide)
  exact ⟨got, s', hquote, hmore, hback⟩

/-- A book with one ask of all the base units there can be, 158 ticks of ten below par. -/
def fullAskBook : DexState :=
  letI := BookHash.pairing
  stockedDex 5 6 [.newAsk 1 9 (computeBookKey 5 6) u128Max (-1580)]

/-- Beyond that range the way back fails: the price of all base units, converted back to
base, is one unit too many for its type. -/
theorem quote_round_trip_overflows :
    letI := BookHash.pairing
    let ctx : Context := ⟨.T12, .permissive 6, 0⟩
    (∃ listing, Listed fullAskBook listing) ∧
    ∃ paid s', quoteExactOut ctx (computeBookKey 5 6) u128Max false fullAskBook = .ok paid s' ∧
      ∀ got t, quoteExactIn ctx (computeBookKey 5 6) paid false fullAskBook ≠ .ok got t := by
  let := BookHash.pairing
  intro ctx
  obtain ⟨hlisted, -⟩ := @listed_stocked _ 5 6 (by decide)
    [.newAsk 1 9 (computeBookKey 5 6) u128Max (-1580)] (by decide) (by decide)
  have hout : returned ((quoteExactOut ctx (computeBookKey 5 6) u128Max false >>= fun paid =>
      require (paid = 334905905523587635740653288634346273715) .underOverflow) fullAskBook) =
      true := by decide +kernel
  have hin : returned (quoteExactIn ctx (computeBookKey 5 6)
      334905905523587635740653288634346273715 false fullAskBook) = false := by decide +kernel
  obtain ⟨_, _, hrun⟩ := returned_iff.mp hout
  obtain ⟨paid, s', hquote, hpaid⟩ := bind_ok.mp hrun
  obtain ⟨rfl, _⟩ := require_ok.mp hpaid
  refine ⟨⟨_, hlisted⟩, _, s', hquote, fun got t hback => ?_⟩
  rw [returned_iff.mpr ⟨got, t, hback⟩] at hin
  exact nomatch hin

end Monotempo.Dex
