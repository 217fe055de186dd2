/-
  Quotes predict swaps, from T12 on.

  A quote walks the books as they are, while a swap takes orders off and may flip
  them as it goes.  Both meet the same orders: the quote's cursor follows the
  priority sequence of the untouched book, and that is the sequence a fill
  consumes.  A hop changes no other book, and the books of a route are distinct,
  so this carries over to routes.
-/
import Monotempo.Dex.Invariant

set_option autoImplicit false

namespace Monotempo.Dex

open Chain Foundation

variable {queues : Queues} {tick : ℤ} {id : ℕ}

/-! ## Two walks side by side -/

variable {isBid : Bool} {step : ℕ → Order → Bool → Option OrderStep}

/-- A walk that settles orders is mirrored by one that only looks at them in a fixed
state `v`: the orders in hand agree where the steps look, and the second cursor
moves whenever the first one does. -/
theorem walkRestingOrders_mirrored {σ τ : Type}
    {settle : Order → Fill → EStateM Error σ (Option Order)}
    {look : Order → Fill → EStateM Error τ (Option Order)} {v : τ} (rel : σ → Order → Order → Prop)
    (hstep : ∀ {w a b}, rel w a b →
      a.remaining = b.remaining ∧ ∀ amount, step amount a isBid = step amount b isBid)
    (hpart : ∀ b amount, ∃ next, look b (.partially amount) v = .ok next v)
    (hfull : ∀ {w w' a b next}, rel w a b → settle a .full w = .ok next w' →
      ∃ next', look b .full v = .ok next' v ∧ Option.Rel (rel w') next next') :
    ∀ fuel {w w' a b amount total result}, rel w a b →
      walkRestingOrders step isBid settle fuel a amount total w = .ok result w' →
      walkRestingOrders step isBid look fuel b amount total v = .ok result v := by
  intro fuel
  induction fuel with
  | zero =>
    intro w w' a b amount total result _ hrun
    unfold walkRestingOrders at hrun ⊢
    split at hrun
    · rename_i hzero
      rw [if_pos hzero, pure_ok]
      exact ⟨(pure_ok.mp hrun).1, rfl⟩
    · exact (throw_ok.mp hrun).elim
  | succ fuel ih =>
    intro w w' a b amount total result hrel hrun
    obtain ⟨hremaining, hsteps⟩ := hstep hrel
    unfold walkRestingOrders at hrun ⊢
    split at hrun
    · rename_i hzero
      rw [if_pos hzero, pure_ok]
      exact ⟨(pure_ok.mp hrun).1, rfl⟩
    · rename_i hamount
      rw [if_neg hamount, bind_ok]
      obtain ⟨st, hsome, hrun⟩ := okOr_bind_ok.mp hrun
      refine ⟨st, v, okOr_ok.mpr ⟨(hsteps amount).symm.trans hsome, rfl⟩, ?_⟩
      rw [← hremaining]
      split at hrun
      · rename_i hless
        rw [if_pos hless, bind_ok]
        obtain ⟨_, _, _, htotal⟩ := bind_ok.mp hrun
        obtain ⟨next, hlook⟩ := hpart b st.fillAmount
        exact ⟨next, v, hlook, okOr_ok.mpr ⟨(okOr_ok.mp htotal).1, rfl⟩⟩
      · rename_i hless
        rw [if_neg hless, bind_ok]
        obtain ⟨next, w₁, hsettle, hrun⟩ := bind_ok.mp hrun
        obtain ⟨total', htotal, hrun⟩ := okOr_bind_ok.mp hrun
        obtain ⟨next', hlook, hnext⟩ := hfull hrel hsettle
        refine ⟨next', v, hlook, bind_ok.mpr ⟨total', v, okOr_ok.mpr ⟨htotal, rfl⟩, ?_⟩⟩
        cases hnext with
        | some hrel' => exact ih hrel' hrun
        | none =>
          simp only at hrun ⊢
          split at hrun
          · exact (throw_ok.mp hrun).elim
          · rename_i hdone
            rw [if_neg hdone, pure_ok]
            exact ⟨(pure_ok.mp hrun).1, rfl⟩

/-! ## The cursor of a quote -/

variable {bookKey : B256}

/-- What follows an order in the priority sequence: the rest of its queue, then the
queues of the worse ticks. -/
theorem SideOk.priority_after {v : SideView} (h : SideOk v bookKey isBid queues)
    {left right before after : List ℕ} (hqueue : queues tick = left ++ id :: right)
    (hpriority : priority isBid queues = before ++ id :: after) :
    ∃ worse : List ℤ, after = right ++ worse.flatMap queues ∧
      worse.Pairwise (TickBitmap.better isBid) ∧
      ∀ t, t ∈ worse ↔ TickBitmap.better isBid tick t ∧ minTick ≤ t ∧ t ≤ maxTick := by
  have hrange := h.range tick (by rw [hqueue]; simp)
  obtain ⟨better, worse, hsplit, hbetter, hworse⟩ := bestFirst_split isBid hrange
  have hpairwise := pairwise_bestFirst isBid
  rw [hsplit, List.pairwise_append, List.pairwise_cons] at hpairwise
  refine ⟨worse, ?_, hpairwise.2.1.2, fun t => ⟨fun ht => ⟨hworse t ht, ?_⟩, fun ht => ?_⟩⟩
  · have hlisted : priority isBid queues =
        (better.flatMap queues ++ left) ++ id :: (right ++ worse.flatMap queues) := by
      unfold priority
      rw [hsplit, List.flatMap_append, List.flatMap_cons, hqueue]
      simp
    have hnodup := h.nodup_priority
    rw [hpriority, List.nodup_append, List.nodup_cons] at hnodup
    have hbefore : id ∉ before := fun hmem => hnodup.2.2 id hmem id List.mem_cons_self rfl
    rw [hpriority] at hlisted
    exact ((List.append_cons_inj_of_notMem hbefore hnodup.2.1.1).mp hlisted).2.2
  · refine (@mem_bestFirst t isBid).mp ?_
    rw [hsplit]
    simp [ht]
  · have hmem := (@mem_bestFirst t isBid).mpr ht.2
    rw [hsplit, List.mem_append, List.mem_cons] at hmem
    rcases hmem with hmem | rfl | hmem
    · exact absurd (TickBitmap.better_trans ht.1 (hbetter t hmem)) (TickBitmap.better_irrefl _ _)
    · exact absurd ht.1 (TickBitmap.better_irrefl _ _)
    · exact hmem

/-- The queues of the worse ticks start with that of the tick the bitmap search
finds. -/
theorem SideOk.worse_eq {c : DexCore} (h : SideOk (c.side bookKey isBid) bookKey isBid queues)
    {next : ℤ} {worse : List ℤ} (hpairwise : worse.Pairwise (TickBitmap.better isBid))
    (hworse : ∀ t, t ∈ worse ↔ TickBitmap.better isBid tick t ∧ minTick ≤ t ∧ t ≤ maxTick)
    (hfound : TickBitmap.nextInitializedTick ((c.books bookKey).bitmap isBid) tick isBid =
      (next, true)) :
    queues next ≠ [] ∧ ∃ later, worse.flatMap queues = queues next ++ later := by
  obtain ⟨hbehind, hset, hclear⟩ := TickBitmap.nextInitializedTick_some hfound
  have hne : queues next ≠ [] := (h.bit next).mp hset
  obtain ⟨between, later, hsplit⟩ :=
    List.append_of_mem ((hworse next).mpr ⟨hbehind, h.range next hne⟩)
  rw [hsplit, List.pairwise_append] at hpairwise
  have hbetween : between.flatMap queues = [] := by
    rw [List.flatMap_eq_nil_iff]
    intro t ht
    have hbefore := ((hworse t).mp (by rw [hsplit]; simp [ht])).1
    have hbit := hclear t hbefore (hpairwise.2.2 t ht next List.mem_cons_self)
    by_contra hqueue
    have hset' : TickBitmap.isTickInitialized ((c.books bookKey).bitmap isBid) t = true :=
      (h.bit t).mpr hqueue
    rw [hbit] at hset'
    exact nomatch hset'
  refine ⟨hne, later.flatMap queues, ?_⟩
  rw [hsplit, List.flatMap_append, List.flatMap_cons, hbetween, List.nil_append]

/-- The cursor of a quote follows the priority sequence. -/
theorem nextOrderAfter_priority [BookHash] {ctx : Context} {q : DexState} {before after : List ℕ}
    (h : Walkable q bookKey isBid queues)
    (hpriority : priority isBid queues = before ++ id :: after) :
    nextOrderAfter ctx bookKey (q.orders id).order isBid q =
      .ok (after.head?.map fun next => (q.orders next).order) q := by
  obtain ⟨tick, hmem⟩ := (mem_priority h.side.range).mp
    (show id ∈ priority isBid queues by rw [hpriority]; simp)
  obtain ⟨left, right, hqueue⟩ := List.append_of_mem hmem
  obtain ⟨worse, rfl, hpairwise, hworse⟩ := h.side.priority_after hqueue hpriority
  have hnext : (q.orders id).order.next = right.headD 0 := (h.side.pointers hqueue).2
  have htick : (q.orders id).order.tick = tick := (h.side.resting tick id hmem).tick_eq
  unfold nextOrderAfter
  cases right with
  | cons next right =>
    have hmemNext : next ∈ queues tick := by
      rw [hqueue]
      simp
    have hid : (q.orders id).order.next = next := hnext
    rw [hid, if_pos (h.side.resting tick next hmemNext).id_ne_zero, bind_ok]
    exact ⟨_, q, readOrderInBook_ok.mpr ⟨h.inBook_eq hmemNext, rfl⟩, rfl⟩
  | nil =>
    have hzero : ¬ (q.orders id).order.next ≠ 0 := not_not.mpr hnext
    rw [if_neg hzero, htick, bind_ok]
    refine ⟨_, q, rfl, ?_⟩
    cases hsearch : TickBitmap.nextInitializedTick ((q.books bookKey).bitmap isBid) tick
      isBid with
    | mk next found =>
      cases found with
      | false =>
        have hnone : worse.flatMap queues = [] := by
          rw [List.flatMap_eq_nil_iff]
          intro t ht
          obtain ⟨hbehind, hmin, hmax⟩ := (hworse t).mp ht
          by_contra hne
          have hset := (h.side.bit t).mpr hne
          exact absurd (TickBitmap.nextInitializedTick_none hsearch t hmin hmax hbehind)
            (by rw [Bool.not_eq_false]; exact hset)
        rw [hnone]
        rfl
      | true =>
        obtain ⟨hne, later, hlater⟩ := h.side.worse_eq hpairwise hworse hsearch
        obtain ⟨first, rest, hfirst⟩ := List.exists_cons_of_ne_nil hne
        have hhead : (levelRead ctx.spec ((q.books bookKey).level isBid next)).head =
            first := by
          have hstored : ((q.books bookKey).level isBid next).head =
              (queues next).headD 0 := h.side.head next
          rw [levelRead_head, hstored, hfirst]
          rfl
        have hmemFirst : first ∈ queues next := by
          rw [hfirst]
          exact List.mem_cons_self
        rw [hlater, hfirst]
        refine bind_ok.mpr ⟨_, q, rfl, bind_ok.mpr ⟨(q.orders first).order, q, ?_, rfl⟩⟩
        refine readOrderInBook_ok.mpr ⟨?_, rfl⟩
        show (q.orders (levelRead ctx.spec _).head).inBook (levelRead ctx.spec _).head _ = _
        rw [hhead]
        exact h.inBook_eq hmemFirst

/-! ## One hop -/

/-- Two states agree on one book: on the book itself, on its queues and on the
records of its orders. -/
structure SameBook (c : DexCore) (listing : Listing) (c' : DexCore) (listing' : Listing)
    (key : B256) : Prop where
  book : c'.books key = c.books key
  queues : listing' key = listing key
  orders : ∀ side tick, ∀ id ∈ listing key side tick, c'.orders id = c.orders id

theorem SameBook.refl (c : DexCore) (listing : Listing) (key : B256) :
    SameBook c listing c listing key :=
  ⟨rfl, rfl, fun _ _ _ _ => rfl⟩

theorem SameBook.trans {c c' c'' : DexCore} {listing listing' listing'' : Listing} {key : B256}
    (h : SameBook c listing c' listing' key) (h' : SameBook c' listing' c'' listing'' key) :
    SameBook c listing c'' listing'' key where
  book := h'.book.trans h.book
  queues := h'.queues.trans h.queues
  orders := by
    intro side tick id hmem
    have hmem' : id ∈ listing' key side tick := by
      rw [h.queues]
      exact hmem
    exact (h'.orders side tick id hmem').trans (h.orders side tick id hmem)

section Hop

variable [BookHash] {ctx : Context} {step : ℕ → Order → Bool → Option OrderStep}
  {taker : Address} {q : DexState} {listing listing' : Listing} {bookKey : B256}
  {isBid : Bool} {amount : ℕ}

/-- The walk of a fill holds `a`, that of a quote in `q` the order with the same id. -/
def Mirrors (spec : TempoHardfork) (q : DexCore) (bookKey : B256) (isBid : Bool)
    (queues : Queues) (w : FillState) (a b : Order) : Prop :=
  b = (q.orders a.orderId).order ∧
    ∃ full queues', Progress spec q bookKey isBid queues full queues' w a

/-- A quote in `q` returns what a fill of the same queues returns.  `hlocal` says that
a step does not look at back pointers, which a fill changes. -/
theorem settleFill_mirrored
    (hlocal : ∀ amount order, step amount (Order.forward order) isBid = step amount order isBid)
    (hwalk : Walkable q bookKey isBid queues) {w w' : FillState} {a b : Order}
    {fuel total result : ℕ} (hmirrors : Mirrors ctx.spec q bookKey isBid queues w a b)
    (hrun : walkRestingOrders step isBid (settleFill ctx bookKey taker) fuel a amount total w =
      .ok result w') :
    walkRestingOrders step isBid (quoteFill ctx bookKey isBid) fuel b amount total q =
      .ok result q := by
  refine walkRestingOrders_mirrored (Mirrors ctx.spec q bookKey isBid queues) ?_
    (fun _ _ => ⟨none, rfl⟩) ?_ fuel hmirrors hrun
  · rintro w a b ⟨rfl, full, queues', h⟩
    obtain ⟨_, _, _, _, _, _, hremaining⟩ := Order.contents_fields h.order_eq.1
    refine ⟨hremaining, fun amount => ?_⟩
    rw [← hlocal, h.forward_eq, hlocal]
  · rintro w w' a b next ⟨rfl, full, queues', h⟩ hsettle
    obtain ⟨rest, hqueue⟩ := h.cursor.first
    rcases settleFill_full_ok hsettle with ⟨_, level, order', s, rfl, rfl, hfill⟩ |
      ⟨_, s, rfl, rfl, hfill⟩
    · obtain ⟨hsplit, hkept, _, hcursor⟩ := h.fill hqueue hfill
      obtain ⟨rest', hqueue'⟩ := Cursor.first hcursor
      refine ⟨some (q.orders order'.orderId).order, ?_,
        .some ⟨rfl, _, _, hcursor, hsplit, hkept⟩⟩
      rw [Cursor.priority_eq_cons hcursor hqueue', List.append_assoc] at hsplit
      exact nextOrderAfter_priority hwalk hsplit
    · obtain ⟨hsplit, _, _, hempty⟩ := h.fill hqueue hfill
      refine ⟨none, ?_, .none⟩
      rw [priority_eq_nil hempty, List.append_nil] at hsplit
      exact nextOrderAfter_priority hwalk hsplit

/-- A fill and a quote of the same amount on the same book return the same amount. -/
theorem fillOrders_quoted {t t' : DexState} {deltas : StorageCreditDeltas}
    {result : ℕ × StorageCreditDeltas}
    (hlocal : ∀ amount order, step amount (Order.forward order) isBid = step amount order isBid)
    (hquote : Listed q listing) (hlisted : Listed t listing')
    (hsame : SameBook q listing t listing' bookKey)
    (hnextId : t.nextOrderId = q.nextOrderId)
    (hbook : (q.books bookKey).isInitialized = true)
    (hrun : fillOrders ctx step taker deltas bookKey isBid amount t = .ok result t') :
    quotePerOrder ctx bookKey amount isBid step q = .ok result.1 q := by
  have hwalk := hquote.walkable hbook isBid
  have hwalk' : Walkable t bookKey isBid (listing bookKey isBid) := by
    have hcreated : (t.books bookKey).isInitialized = true := by
      rw [hsame.book]
      exact hbook
    have h := hlisted.walkable hcreated isBid
    rw [hsame.queues] at h
    exact h
  obtain ⟨htick, w', hwalked, _, _⟩ := fillOrders_ok hrun
  obtain ⟨id, rest, hqueue⟩ := List.exists_cons_of_ne_nil (hwalk'.best.ne_nil htick)
  have hmem : id ∈ listing bookKey isBid ((t.books bookKey).bestTick isBid) := by
    rw [hqueue]
    exact List.mem_cons_self
  have hhead : (levelRead ctx.spec
      ((t.books bookKey).level isBid ((t.books bookKey).bestTick isBid))).head = id := by
    have hstored : ((t.books bookKey).level isBid ((t.books bookKey).bestTick isBid)).head = _ :=
      hwalk'.side.head _
    rw [levelRead_head, hstored, hqueue]
    rfl
  have hcursor := hwalk'.cursor ctx.spec rfl (hwalk'.best.ne_nil htick)
  simp only [hhead, hwalk'.inBook_eq hmem] at hcursor hwalked
  have hquoted := settleFill_mirrored hlocal hwalk
    ⟨rfl, [], _, hcursor, by simp, fun tick id hmem => by
      rw [hsame.orders isBid tick id hmem]⟩ hwalked
  rw [hwalk'.key _ id hmem, hnextId] at hquoted
  rw [hsame.book] at htick hhead hmem
  refine bind_ok.mpr ⟨_, q, bind_ok.mpr ⟨q, q, rfl, bind_ok.mpr ⟨(), q, ?_, rfl⟩⟩,
    bind_ok.mpr ⟨_, q, readOrderInBook_ok.mpr ⟨?_, rfl⟩, bind_ok.mpr ⟨q, q, rfl, hquoted⟩⟩⟩
  · exact require_ok.mpr ⟨htick, rfl⟩
  · show (q.orders (levelRead ctx.spec _).head).inBook (levelRead ctx.spec _).head _ = _
    rw [hhead]
    exact hwalk.inBook_eq hmem

end Hop

/-! ## Other books -/

section OtherBooks

variable [BookHash] {spec : TempoHardfork} {c : DexCore} {listing : Listing} {order : Order}
  {key : B256}

omit [BookHash] in
theorem Listing.set_of_key_ne (listing : Listing) (hkey : key ≠ bookKey) (isBid : Bool) (tick : ℤ)
    (queue : List ℕ) :
    listing.set bookKey isBid tick queue key = listing key :=
  funext fun _ => listing.set_of_ne tick queue fun hsame => hkey hsame.1

/-- An order of one book is not on the queues of another. -/
theorem Listed.ne_of_key_ne (h : Listed c listing) {side : Bool} {t : ℤ} {other : ℕ}
    (hkey : key ≠ bookKey) (hmem : id ∈ listing bookKey isBid tick)
    (hother : other ∈ listing key side t) : other ≠ id := by
  rintro rfl
  exact hkey (h.unique hmem hother).1

theorem SameBook.retired {level stored : TickLevel} {rest : List ℕ}
    (h : Front spec c listing level order rest) (hkey : key ≠ order.bookKey) (taker : Address) :
    SameBook c listing (c.retired spec taker order stored)
      (listing.set order.bookKey order.isBid order.tick rest) key where
  book := by
    unfold DexCore.retired DexCore.withoutHead DexCore.setLevel
    split
    · rw [DexCore.books_setBook_of_ne _ hkey]
      rfl
    · rw [DexCore.books_setBook_of_ne _ hkey]
      rfl
  queues := listing.set_of_key_ne hkey _ _ _
  orders := by
    intro side tick id hmem
    have hnext : ¬ (order.next ≠ 0 ∧ id = order.next) := by
      rintro ⟨hzero, rfl⟩
      have hqueue : order.next ∈ listing order.bookKey order.isBid order.tick := by
        rw [h.queue]
        exact List.mem_cons_of_mem _ (h.next_mem hzero)
      exact h.listed.ne_of_key_ne hkey hqueue hmem rfl
    unfold DexCore.retired
    rw [DexCore.orders_withoutHead, if_neg hnext, DexCore.orders_setRecord,
      if_neg (h.listed.ne_of_key_ne hkey h.mem hmem)]
    rfl

theorem SameBook.flip (h : Listed c listing) (hflip : Flippable c order)
    (hkey : key ≠ order.bookKey) :
    SameBook c listing (c.flip spec order) (listing.append order.flipped) key where
  book := by
    unfold DexCore.flip
    rw [DexCore.books_commit, if_neg (show key ≠ order.flipped.bookKey from hkey)]
    rfl
  queues := listing.set_of_key_ne hkey _ _ _
  orders := by
    intro side tick id hmem
    have hid : id ≠ order.flipped.orderId := by
      rintro rfl
      exact h.notMem_of_absent hflip.absent hflip.id_ne_zero key side tick hmem
    have htail : ¬ (c.tailFor order.flipped ≠ 0 ∧ id = c.tailFor order.flipped) := by
      rintro ⟨hzero, rfl⟩
      have hqueue := h.tailFor_mem hzero
      exact h.ne_of_key_ne hkey hqueue hmem rfl
    exact (DexCore.orders_commit_of_ne _ _ hid).trans (if_neg htail)

theorem SameBook.partlyFilled {level level' : TickLevel} {rest : List ℕ}
    (h : Front spec c listing level order rest) (hkey : key ≠ order.bookKey) (fillAmount : ℕ)
    (event : OrderFilled) :
    SameBook c listing (c.partlyFilled spec order level' fillAmount event) listing key where
  book := by
    unfold DexCore.partlyFilled
    cases spec.isT12 with
    | true => rfl
    | false => exact DexCore.books_setBook_of_ne _ hkey _
  queues := rfl
  orders := by
    intro side tick id hmem
    rw [DexCore.orders_partlyFilled, if_neg (h.listed.ne_of_key_ne hkey h.mem hmem)]

theorem fillInvariant_otherBooks {taker : Address} (c₀ : DexCore) (listing₀ : Listing) :
    FillInvariant spec taker step bookKey isBid fun c listing _ _ =>
      ∀ key, key ≠ bookKey → SameBook c₀ listing₀ c listing key where
  retire := by
    rintro c listing level stored order rest amount total st hfront _ rfl _ _ _ h key hkey
    exact (h key hkey).trans (.retired hfront hkey taker)
  flip := by
    rintro c listing order amount total hlisted hflip rfl _ h key hkey
    exact (h key hkey).trans (.flip hlisted hflip hkey)
  part := by
    rintro c listing level level' order rest amount total st hfront rfl _ _ _ _ _ _ h key hkey
    exact (h key hkey).trans (.partlyFilled hfront hkey _ _)

end OtherBooks

/-! ## Routes -/

section Routes

variable [BookHash] {ctx : Context} {step : ℕ → Order → Bool → Option OrderStep}
  {taker : Address} {q : DexState} {listing : Listing}

/-- A route over distinct books is quoted exactly: the fills of the hops before leave
each book as the quote sees it. -/
theorem fillRoute_quoted (hspec : ctx.spec.isT5 = true)
    (hlocal : ∀ amount order isBid,
      step amount (Order.forward order) isBid = step amount order isBid)
    (hquote : Listed q listing) :
    ∀ {hops : List Hop} {deltas : StorageCreditDeltas} {amount : ℕ} {t t' : DexState}
      {listing' : Listing} {result : ℕ × StorageCreditDeltas},
      (hops.map Prod.fst).Nodup → (∀ hop ∈ hops, (q.books hop.1).isInitialized = true) →
      Listed t listing' → t.nextOrderId = q.nextOrderId →
      (∀ hop ∈ hops, SameBook q listing t listing' hop.1) →
      fillRoute (fillOrders ctx step taker) hops deltas amount t = .ok result t' →
      quoteRoute (fun bookKey amount isBid => quotePerOrder ctx bookKey amount isBid step) hops
        amount q = .ok result.1 q := by
  intro hops
  induction hops with
  | nil =>
    intro deltas amount t t' listing' result _ _ _ _ _ hrun
    obtain ⟨rfl, _⟩ := pure_ok.mp hrun
    rfl
  | cons hop hops ih =>
    intro deltas amount t t' listing' result hnodup hbooks hlisted hnextId hsame hrun
    obtain ⟨bookKey, isBid⟩ := hop
    obtain ⟨filled, t₁, hfill, hrest⟩ := bind_ok.mp hrun
    have hself := hsame _ List.mem_cons_self
    have hbook := hbooks _ List.mem_cons_self
    have hquoted := fillOrders_quoted (fun amount order => hlocal amount order isBid) hquote
      hlisted hself hnextId hbook hfill
    have hcreated : (t.books bookKey).isInitialized = true := by
      rw [hself.book]
      exact hbook
    obtain ⟨listing₁, hlisted₁, hothers, hpairs⟩ :=
      ((fillInvariant_otherBooks t listing').and
        (fillInvariant_samePairs t)).fillOrders hspec hlisted hcreated
        ⟨fun key _ => .refl _ _ key, .refl _⟩ hfill
    rw [List.map_cons, List.nodup_cons] at hnodup
    have hsame₁ : ∀ hop ∈ hops,
        SameBook q listing t₁ listing₁ hop.1 := by
      intro hop hmem
      refine (hsame hop (List.mem_cons_of_mem _ hmem)).trans (hothers hop.1 ?_)
      rintro rfl
      exact hnodup.1 (List.mem_map.mpr ⟨hop, hmem, rfl⟩)
    exact bind_ok.mpr ⟨_, q, hquoted, ih hnodup.2
      (fun hop hmem => hbooks hop (List.mem_cons_of_mem _ hmem)) hlisted₁
      (hpairs.nextOrderId.trans hnextId) hsame₁ hrest⟩

/-- A quote equals the swap: from T12 on, in a well-formed state, the output of an
exact-in swap that succeeds and the charge of an exact-out swap that succeeds are
what the quotes in the state before return.  The limits of the swaps, the number of
hops and the flips on the way are arbitrary. -/
theorem quote_eq_swap {s s' : DexState} {sender tokenIn tokenOut : Address}
    {amount limit result : ℕ} (hspec : ctx.spec.isT12 = true)
    (hstate : Listed s listing) :
    (swapExactAmountIn ctx sender tokenIn tokenOut amount limit s = .ok result s' →
      quoteSwapExactAmountIn ctx tokenIn tokenOut amount s = .ok result s) ∧
    (swapExactAmountOut ctx sender tokenIn tokenOut amount limit s = .ok result s' →
      quoteSwapExactAmountOut ctx tokenIn tokenOut amount s = .ok result s) := by
  have hspec5 := TempoHardfork.isT5_of_isT12 hspec
  refine ⟨fun hswap => ?_, fun hswap => ?_⟩
  · obtain ⟨hops, t, t', deltas, hpath, hdebit, hfill, _⟩ := swapExactAmountIn_ok hswap
    obtain ⟨_, hroute, hnodup⟩ := findTradePath_ok hpath
    obtain ⟨hbooks, horders, hkeys, hnext⟩ :=
      DexCore.debit_frame s sender tokenIn amount
    rw [← hdebit] at hbooks horders hkeys hnext
    have hlisted : Listed t listing := hstate.congr hbooks horders hkeys hnext.ge
    have hquote : quoteExactIn ctx =
        fun bookKey amount isBid => quotePerOrder ctx bookKey amount isBid stepExactIn := by
      unfold quoteExactIn
      simp only [hspec, if_true]
    refine bind_ok.mpr ⟨hops, s, hpath, ?_⟩
    rw [hquote]
    exact fillRoute_quoted hspec5 (fun _ _ _ => rfl) hstate hnodup hroute.created hlisted hnext
      (fun hop _ => ⟨congrFun hbooks _, rfl, fun _ _ id _ => congrFun horders id⟩) hfill
  · obtain ⟨hops, t, t', deltas, hpath, hfill, _⟩ := swapExactAmountOut_ok hswap
    obtain ⟨_, hroute, hnodup⟩ := findTradePath_ok hpath
    have hquote : quoteExactOut ctx =
        fun bookKey amount isBid => quotePerOrder ctx bookKey amount isBid stepExactOut := by
      unfold quoteExactOut
      simp only [hspec, if_true]
    refine bind_ok.mpr ⟨hops, s, hpath, ?_⟩
    rw [hquote]
    refine fillRoute_quoted hspec5 (fun _ _ _ => rfl) hstate ?_ ?_ hstate rfl
      (fun hop _ => .refl _ _ _) hfill
    · rw [List.map_reverse, List.nodup_reverse]
      exact hnodup
    · exact fun hop hmem => hroute.created hop (List.mem_reverse.mp hmem)

end Routes

/-- Both swaps cross two books and fill a flip order and a part of a plain one in each. -/
theorem quote_eq_swap_two_hops :
    letI := BookHash.pairing
    let ctx : Context := ⟨.T12, .permissive pathUsdAddress, 3⟩
    ∃ s s₁ s₂ received charged, runCalls ctx twoBooks fundedDex = .ok () s ∧
      swapExactAmountIn ctx 7 (pathUsdAddress + 1) (pathUsdAddress + 2) 250000000 0 s =
        .ok received s₁ ∧
      quoteSwapExactAmountIn ctx (pathUsdAddress + 1) (pathUsdAddress + 2) 250000000 s =
        .ok received s ∧
      swapExactAmountOut ctx 7 (pathUsdAddress + 1) (pathUsdAddress + 2) 200000000 u128Max s =
        .ok charged s₂ ∧
      quoteSwapExactAmountOut ctx (pathUsdAddress + 1) (pathUsdAddress + 2) 200000000 s =
        .ok charged s := by
  let := BookHash.pairing
  intro ctx
  have hin : returned ((runCalls ctx twoBooks >>= fun _ => swapExactAmountIn ctx 7
      (pathUsdAddress + 1) (pathUsdAddress + 2) 250000000 0) fundedDex) = true := by
    decide +kernel
  have hout : returned ((runCalls ctx twoBooks >>= fun _ => swapExactAmountOut ctx 7
      (pathUsdAddress + 1) (pathUsdAddress + 2) 200000000 u128Max) fundedDex) = true := by
    decide +kernel
  obtain ⟨received, s₁, hin⟩ := returned_iff.mp hin
  obtain ⟨charged, s₂, hout⟩ := returned_iff.mp hout
  obtain ⟨_, s, hplace, hin⟩ := bind_ok.mp hin
  obtain ⟨_, s', hplace', hout⟩ := bind_ok.mp hout
  obtain ⟨_, rfl⟩ := EStateM.Result.ok.inj (hplace.symm.trans hplace')
  have hreach : Reachable (fun ctx _ => ctx.spec = .T12) DexState.Unused s :=
    Reachable.runCalls (.start ⟨_, rfl⟩) (fun _ _ => rfl) hplace
  obtain ⟨listing, hlisted, _⟩ := hreach.listed (by decide) fun _ h => h
  exact ⟨s, s₁, s₂, received, charged, hplace, hin, (quote_eq_swap rfl hlisted).1 hin, hout,
    (quote_eq_swap rfl hlisted).2 hout⟩

end Monotempo.Dex
