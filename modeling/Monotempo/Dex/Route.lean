/-
  The routes of swaps.

  A route leads from one token to another over books that exist.  The tokens on
  the way are all different, because the paths to the root meet only from their
  lowest common ancestor on; so no book is used twice.
-/
import Monotempo.Dex.Calls

set_option autoImplicit false

namespace Monotempo.Dex

open Chain Foundation

/-! ## Paths to the root -/

/-- The quote tokens from a token to pathUSD. -/
inductive RootPath (env : TokenEnv) : Address → List Address → Prop
  | root : RootPath env pathUsdAddress [pathUsdAddress]
  | step {token : Address} {rest : List Address} (hother : token ≠ pathUsdAddress)
      (hrest : RootPath env (env.quoteToken token) rest) : RootPath env token (token :: rest)

namespace RootPath

variable {env : TokenEnv} {token : Address} {path path' : List Address}

section RootPaths

variable (h : RootPath env token path)

include h

theorem unique :
    ∀ {path'}, RootPath env token path' → path = path' := by
  induction h with
  | root =>
    intro path' h'
    cases h' with
    | root => rfl
    | step hother _ => exact absurd rfl hother
  | step hother _ ih =>
    intro path' h'
    cases h' with
    | root => exact absurd rfl hother
    | step _ hrest => rw [ih hrest]

/-- Every token on a path starts a shorter one. -/
theorem of_mem {other : Address} (hmem : other ∈ path) :
    ∃ path', RootPath env other path' ∧ path'.length ≤ path.length := by
  induction h with
  | root =>
    obtain rfl := List.mem_singleton.mp hmem
    exact ⟨_, .root, le_rfl⟩
  | step hother hrest ih =>
    rcases List.mem_cons.mp hmem with rfl | hin
    · exact ⟨_, .step hother hrest, le_rfl⟩
    · obtain ⟨path', hpath, hle⟩ := ih hin
      exact ⟨path', hpath, hle.trans (Nat.le_succ _)⟩

theorem nodup : path.Nodup := by
  induction h with
  | root => exact List.nodup_singleton _
  | @step token rest hother hrest ih =>
    refine List.nodup_cons.mpr ⟨fun hmem => ?_, ih⟩
    obtain ⟨path', hpath, hle⟩ := hrest.of_mem hmem
    rw [← (RootPath.step hother hrest).unique hpath, List.length_cons] at hle
    omega

theorem head : ∃ rest, path = token :: rest := by
  cases h with
  | root | step => exact ⟨_, rfl⟩

end RootPaths

end RootPath

theorem findPathToRoot_ok {ctx : Context} {s : DexState} :
    ∀ {fuel : ℕ} {token : Address} {path : List Address} {s' : DexState},
      findPathToRoot ctx fuel token s = .ok path s' → s = s' ∧ RootPath ctx.env token path := by
  intro fuel
  induction fuel with
  | zero =>
    intro token path s' h
    exact (throw_ok.mp h).elim
  | succ fuel ih =>
    intro token path s' h
    unfold findPathToRoot at h
    split at h
    · rename_i hroot
      obtain ⟨rfl, rfl⟩ := pure_ok.mp h
      subst hroot
      exact ⟨rfl, .root⟩
    · rename_i hother
      simp only [bind_ok, liftToken_ok, pure_ok] at h
      obtain ⟨_, _, ⟨_, rfl⟩, rest, t, hrest, rfl, rfl⟩ := h
      obtain ⟨rfl, hpath⟩ := ih hrest
      exact ⟨rfl, .step hother hpath⟩

/-! ## Routes -/

/-- A hop leads from one token to another over an existing book: with the direction
`true` it sells the base token. -/
structure HopOk [BookHash] (c : DexCore) (tokenIn tokenOut : Address) (hop : Hop) : Prop where
  created : (c.books hop.1).isInitialized = true
  key : hop.1 = if hop.2 then computeBookKey tokenIn tokenOut else computeBookKey tokenOut tokenIn

/-- The hops lead from the first token to the second. -/
def Route [BookHash] (c : DexCore) : Address → Address → List Hop → Prop
  | start, stop, [] => start = stop
  | start, stop, hop :: hops => ∃ mid, HopOk c start mid hop ∧ Route c mid stop hops

section Routes

variable [BookHash] {c : DexCore} {listing : Listing} {ctx : Context} {s s' : DexState}
  {tokenIn tokenOut : Address} {hop : Hop} {hops : List Hop}

theorem HopOk.tokens (h : HopOk c tokenIn tokenOut hop) (hlisted : Listed c listing) :
    (c.books hop.1).base = (if hop.2 then tokenIn else tokenOut) ∧
      (c.books hop.1).quote = (if hop.2 then tokenOut else tokenIn) := by
  have hkey := h.key
  rw [hlisted.pair hop.1 h.created] at hkey
  cases hdirection : hop.2 with
  | true | false =>
    rw [hdirection] at hkey
    exact BookHash.injective hkey

theorem Route.snoc {stop : Address} :
    ∀ {start : Address}, Route c start stop (hops ++ [hop]) →
      ∃ mid, Route c start mid hops ∧ HopOk c mid stop hop := by
  induction hops with
  | nil =>
    rintro start ⟨mid, hhop, rfl⟩
    exact ⟨start, rfl, hhop⟩
  | cons first hops ih =>
    rintro start ⟨mid, hhop, hrest⟩
    obtain ⟨mid', hroute, hlast⟩ := ih hrest
    exact ⟨mid', ⟨mid, hhop, hroute⟩, hlast⟩

theorem Route.mono {c' : DexCore} (hbooks : ∀ key, (c.books key).isInitialized = true →
      (c'.books key).isInitialized = true) :
    ∀ {hops : List Hop} {start stop : Address}, Route c start stop hops →
      Route c' start stop hops := by
  intro hops
  induction hops with
  | nil => exact fun h => h
  | cons hop hops ih =>
    rintro start stop ⟨mid, hhop, hrest⟩
    exact ⟨mid, ⟨hbooks _ hhop.created, hhop.key⟩, ih hrest⟩

theorem buildHop_ok (h : buildHop ctx tokenIn tokenOut s = .ok hop s') :
    s = s' ∧ HopOk s tokenIn tokenOut hop := by
  unfold buildHop at h
  simp only [bind_ok, liftToken_ok, onlyIf_ok, get_ok, require_ok, pure_ok] at h
  obtain ⟨_, _, ⟨_, rfl⟩, _, t₁, hpause, _, t₂, hdirection, _, _, ⟨rfl, rfl⟩, _, _, ⟨hbook, rfl⟩,
    rfl, rfl⟩ := h
  have hsame : s = t₁ := by
    rcases hpause with ⟨_, _, hsame⟩ | ⟨_, hsame⟩
    · exact hsame
    · exact hsame
  subst hsame
  have hsame : s = t₂ := by
    rcases hdirection with ⟨_, _, _, ⟨_, rfl⟩, _, hsame⟩ | ⟨_, hsame⟩
    · exact hsame
    · exact hsame
  subst hsame
  refine ⟨rfl, by simpa [Orderbook.isInitialized] using hbook, ?_⟩
  by_cases hbase : ctx.env.quoteToken tokenIn = tokenOut
  · simp [hbase]
  · by_cases heq : tokenIn = tokenOut
    · simp [heq]
    · simp [hbase, heq]

/-- A route over the tokens of a path, and the tokens of its books. -/
theorem validateAndBuildRoute_ok :
    ∀ {path : List Address} {hops : List Hop} {s' : DexState},
      validateAndBuildRoute ctx path s = .ok hops s' →
      s = s' ∧ (∀ start stop, path.head? = some start → path.getLast? = some stop →
        Route s start stop hops) ∧
      ∀ hop ∈ hops, ∃ x ∈ path, ∃ y ∈ path, hop.1 = computeBookKey x y := by
  intro path
  induction path with
  | nil =>
    intro hops s' h
    obtain ⟨rfl, rfl⟩ := pure_ok.mp h
    refine ⟨rfl, ?_, ?_⟩
    · intro start stop hstart
      exact nomatch hstart
    · intro hop hmem
      exact nomatch hmem
  | cons first rest ih =>
    intro hops s' h
    cases rest with
    | nil =>
      obtain ⟨rfl, rfl⟩ := pure_ok.mp h
      refine ⟨rfl, ?_, ?_⟩
      · intro start stop hstart hstop
        exact (Option.some.inj hstart).symm.trans (Option.some.inj hstop)
      · intro hop hmem
        exact nomatch hmem
    | cons second rest =>
      unfold validateAndBuildRoute at h
      simp only [bind_ok, pure_ok] at h
      obtain ⟨hop, t, hbuilt, hops', t', hrest, rfl, rfl⟩ := h
      obtain ⟨rfl, hhop⟩ := buildHop_ok hbuilt
      obtain ⟨rfl, hroute, htokens⟩ := ih hrest
      refine ⟨rfl, fun start stop hstart hstop => ?_, ?_⟩
      · obtain rfl := Option.some.inj hstart
        exact ⟨second, hhop, hroute second stop rfl hstop⟩
      · intro other hmem
        rcases List.mem_cons.mp hmem with rfl | hmem
        · have hkey := hhop.key
          split at hkey
          · exact ⟨first, by simp, second, by simp, hkey⟩
          · exact ⟨second, by simp, first, by simp, hkey⟩
        · obtain ⟨x, hx, y, hy, hkey⟩ := htokens other hmem
          exact ⟨x, List.mem_cons_of_mem _ hx, y, List.mem_cons_of_mem _ hy, hkey⟩

/-- On a path without repetition no book is used twice. -/
theorem validateAndBuildRoute_nodup :
    ∀ {path : List Address} {hops : List Hop} {s' : DexState}, path.Nodup →
      validateAndBuildRoute ctx path s = .ok hops s' → (hops.map Prod.fst).Nodup := by
  intro path
  induction path with
  | nil =>
    intro hops s' _ h
    obtain ⟨rfl, _⟩ := pure_ok.mp h
    exact List.nodup_nil
  | cons first rest ih =>
    intro hops s' hnodup h
    cases rest with
    | nil =>
      obtain ⟨rfl, _⟩ := pure_ok.mp h
      exact List.nodup_nil
    | cons second rest =>
      unfold validateAndBuildRoute at h
      simp only [bind_ok, pure_ok] at h
      obtain ⟨hop, t, hbuilt, hops', t', hrest, rfl, rfl⟩ := h
      obtain ⟨rfl, hhop⟩ := buildHop_ok hbuilt
      obtain ⟨hfirst, hnodup⟩ := List.nodup_cons.mp hnodup
      refine List.nodup_cons.mpr ⟨fun hmem => hfirst ?_, ih hnodup hrest⟩
      -- A later book with the same key would have the first token again.
      obtain ⟨other, hother, hsame⟩ := List.mem_map.mp hmem
      obtain ⟨_, _, htokens⟩ := validateAndBuildRoute_ok hrest
      obtain ⟨x, hx, y, hy, hkey⟩ := htokens other hother
      rw [hsame, hhop.key] at hkey
      split at hkey
      · rw [(BookHash.injective hkey).1]
        exact hx
      · rw [(BookHash.injective hkey).2]
        exact hy

omit [BookHash] in
theorem takeWhile_ne {left right : List Address} {token : Address}
    (hnodup : (left ++ token :: right).Nodup) :
    (left ++ token :: right).takeWhile (fun x => x ≠ token) = left := by
  have hleft : ∀ x ∈ left, x ≠ token := fun x hx =>
    (List.nodup_append.mp hnodup).2.2 x hx token List.mem_cons_self
  rw [List.takeWhile_append_of_pos (by simpa using hleft)]
  simp

/-- `find_trade_path` gives a route over different books. -/
theorem findTradePath_ok (h : findTradePath ctx tokenIn tokenOut s = .ok hops s') :
    s = s' ∧ Route s tokenIn tokenOut hops ∧ (hops.map Prod.fst).Nodup := by
  unfold findTradePath at h
  simp only [bind_ok, require_ok] at h
  obtain ⟨_, _, ⟨hne, rfl⟩, _, _, ⟨_, rfl⟩, h⟩ := h
  split at h
  · obtain ⟨rfl, hroute, _⟩ := validateAndBuildRoute_ok h
    refine ⟨rfl, hroute _ _ rfl rfl, validateAndBuildRoute_nodup ?_ h⟩
    simpa using hne
  · simp only [bind_ok, okOr_ok] at h
    obtain ⟨pathIn, t, hpathIn, pathOut, t', hpathOut, lca, _, ⟨hlca, rfl⟩, h⟩ := h
    obtain ⟨rfl, hin⟩ := findPathToRoot_ok hpathIn
    obtain ⟨rfl, hout⟩ := findPathToRoot_ok hpathOut
    obtain ⟨hmem, up, above, hup, hbefore⟩ := List.find?_eq_some_iff_append.mp hlca
    have hmem : lca ∈ pathOut := by simpa using hmem
    obtain ⟨down, above', hdown⟩ := List.append_of_mem hmem
    have hnodupIn := hin.nodup
    have hnodupOut := hout.nodup
    rw [hup] at hnodupIn
    rw [hdown] at hnodupOut
    have hapart : ∀ x ∈ up, x ∉ pathOut := fun x hx => by simpa using hbefore x hx
    rw [hup, hdown, takeWhile_ne hnodupIn, takeWhile_ne hnodupOut] at h
    have hnodup : (up ++ [lca] ++ down.reverse).Nodup := by
      grind
    have hfirst : (up ++ [lca] ++ down.reverse).head? = some tokenIn := by
      obtain ⟨rest, hhead⟩ := hin.head
      rw [hup] at hhead
      cases up with
      | nil | cons => exact congrArg some (List.cons.inj hhead).1
    have hlast : (up ++ [lca] ++ down.reverse).getLast? = some tokenOut := by
      obtain ⟨rest, hhead⟩ := hout.head
      rw [hdown] at hhead
      cases down with
      | nil =>
        rw [← (List.cons.inj hhead).1]
        simp
      | cons x down =>
        rw [← (List.cons.inj hhead).1, List.reverse_cons, ← List.append_assoc,
          List.getLast?_concat]
    obtain ⟨rfl, hroute, _⟩ := validateAndBuildRoute_ok h
    exact ⟨rfl, hroute _ _ hfirst hlast, validateAndBuildRoute_nodup hnodup h⟩

/-! ## Swaps -/

/-- `swap_exact_amount_in`: the taker pays, the hops are filled one after the other,
and the taker is paid out. -/
theorem swapExactAmountIn_ok {sender : Address} {amountIn minAmountOut amountOut : ℕ}
    (h : swapExactAmountIn ctx sender tokenIn tokenOut amountIn minAmountOut s =
      .ok amountOut s') :
    ∃ (hops : List Hop) (t t' : DexState) (deltas : StorageCreditDeltas),
      findTradePath ctx tokenIn tokenOut s = .ok hops s ∧
      t.toDexCore = s.debit sender tokenIn amountIn ∧
      fillRoute (fillOrdersExactIn ctx sender) hops [] amountIn t = .ok (amountOut, deltas) t' ∧
      amountOut ≤ t'.ledger tokenOut stablecoinDexAddress ∧
      s'.toDexCore = { t'.toDexCore with
        ledger := t'.ledger.move tokenOut stablecoinDexAddress sender amountOut } := by
  unfold swapExactAmountIn transferTo at h
  simp only [bind_ok, require_ok, pure_ok] at h
  obtain ⟨hops, _, hpath, _, t, hdebit, ⟨out, deltas⟩, t', hfill, _, _, ⟨_, rfl⟩, _, t₁, hmove, _,
    t₂, hflush, rfl, rfl⟩ := h
  obtain ⟨rfl, _⟩ := findTradePath_ok hpath
  have hdebited := decrementBalanceOrTransferFrom_core hdebit
  obtain ⟨hpayout, hmoved⟩ := moveTokens_ok hmove
  exact ⟨hops, t, t', deltas, hpath, hdebited, hfill, hpayout,
    (flushDeltas_core hflush).trans hmoved⟩

/-- `swap_exact_amount_out`: the hops are filled from the last one back, then the
taker pays and is paid out. -/
theorem swapExactAmountOut_ok {sender : Address} {amountOut maxAmountIn amountIn : ℕ}
    (h : swapExactAmountOut ctx sender tokenIn tokenOut amountOut maxAmountIn s =
      .ok amountIn s') :
    ∃ (hops : List Hop) (t t' : DexState) (deltas : StorageCreditDeltas),
      findTradePath ctx tokenIn tokenOut s = .ok hops s ∧
      fillRoute (fillOrdersExactOut ctx sender) hops.reverse [] amountOut s =
        .ok (amountIn, deltas) t ∧
      t'.toDexCore = t.debit sender tokenIn amountIn ∧
      amountOut ≤ t'.ledger tokenOut stablecoinDexAddress ∧
      s'.toDexCore = { t'.toDexCore with
        ledger := t'.ledger.move tokenOut stablecoinDexAddress sender amountOut } := by
  unfold swapExactAmountOut transferTo at h
  simp only [bind_ok, require_ok, pure_ok] at h
  obtain ⟨hops, _, hpath, ⟨amount, deltas⟩, t, hfill, _, _, ⟨_, rfl⟩, _, t', hdebit, _, t₁, hmove,
    _, t₂, hflush, rfl, rfl⟩ := h
  obtain ⟨rfl, _⟩ := findTradePath_ok hpath
  have hdebited := decrementBalanceOrTransferFrom_core hdebit
  obtain ⟨hpayout, hmoved⟩ := moveTokens_ok hmove
  exact ⟨hops, t, t', deltas, hpath, hfill, hdebited, hpayout,
    (flushDeltas_core hflush).trans hmoved⟩

end Routes

end Monotempo.Dex
