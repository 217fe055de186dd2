/-
  The trade paths of the DEX.

  Source: `crates/precompiles/src/stablecoin_dex/mod.rs` (`find_trade_path`,
  `validate_and_build_route`, `find_path_to_root`) and `orderbook.rs`
  (`compute_book_key`).

  The tokens form a graph of quote edges.  A trade path climbs from the token sold to
  the lowest common ancestor and descends to the token bought.  In a graph without
  cycles it is unique, and `find_trade_path` either validates exactly this path or
  stops because a quote chain does not lead to pathUSD.
-/
import Monotempo.Dex.Route
import Monotempo.Foundation.Climb

set_option autoImplicit false

namespace Monotempo.Dex

open Chain Foundation

/-! ## The quote graph -/

/-- The edge from a TIP-20 token to its quote token, if that is a TIP-20 token. -/
def quoteEdge (env : TokenEnv) (token : Address) : Option Address :=
  if isTip20 token ∧ isTip20 (env.quoteToken token) then some (env.quoteToken token) else none

/-- The tokens from `tokenIn` up to the lowest common ancestor and down to `tokenOut`. -/
def TradePath (env : TokenEnv) (tokenIn tokenOut : Address) (tokens : List Address) : Prop :=
  ∃ up lca down, LowestCommon (quoteEdge env) tokenIn tokenOut lca ∧
    Climb (quoteEdge env) tokenIn up lca ∧ Climb (quoteEdge env) tokenOut down lca ∧
    tokens = up ++ lca :: down.reverse

/-- One token is quoted in the other, or both quote chains lead to pathUSD. -/
def Routable (env : TokenEnv) (tokenIn tokenOut : Address) : Prop :=
  env.quoteToken tokenIn = tokenOut ∨ env.quoteToken tokenOut = tokenIn ∨
    Above (quoteEdge env) tokenIn pathUsdAddress ∧ Above (quoteEdge env) tokenOut pathUsdAddress

/-- The book of an edge and its direction: `true` sells the base for its quote token. -/
def edgeHop [BookHash] (env : TokenEnv) (edge : Address × Address) : Hop :=
  if env.quoteToken edge.1 = edge.2 then (computeBookKey edge.1 edge.2, true)
  else (computeBookKey edge.2 edge.1, false)

/-- Neighbours on a path. -/
def edges (tokens : List Address) : List (Address × Address) := tokens.zip tokens.tail

section Graph

variable {env : TokenEnv} {token parent tokenIn tokenOut : Address} {path tokens : List Address}

theorem quoteEdge_eq_some :
    quoteEdge env token = some parent ↔
      isTip20 token = true ∧ isTip20 parent = true ∧ env.quoteToken token = parent := by
  unfold quoteEdge
  split
  · rename_i htokens
    constructor
    · intro h
      obtain rfl := Option.some.inj h
      exact ⟨htokens.1, htokens.2, rfl⟩
    · rintro ⟨_, _, rfl⟩
      rfl
  · rename_i htokens
    simp only [reduceCtorEq, false_iff]
    rintro ⟨htoken, hparent, rfl⟩
    exact htokens ⟨htoken, hparent⟩

/-- There are finitely many TIP-20 addresses. -/
theorem quoteEdge_finite (env : TokenEnv) : {token | quoteEdge env token ≠ none}.Finite := by
  refine (Set.finite_lt_nat (0x20C000000000000000000001 * 2 ^ 64)).subset ?_
  intro token htoken
  obtain ⟨parent, hedge⟩ := Option.ne_none_iff_exists'.mp htoken
  have htip20 := (quoteEdge_eq_some.mp hedge).1
  simp only [isTip20, beq_iff_eq] at htip20
  refine (Nat.div_lt_iff_lt_mul (by decide)).mp ?_
  rw [htip20]
  decide

variable {stop : Address}

theorem climb_isTip20 (h : Climb (quoteEdge env) token path stop) (htoken : isTip20 token = true) :
    ∀ x ∈ path ++ [stop], isTip20 x = true := by
  induction h with
  | here a => simpa using htoken
  | up hstep _ ih =>
    obtain ⟨_, hparent, _⟩ := quoteEdge_eq_some.mp hstep
    intro x hx
    rcases List.mem_cons.mp hx with rfl | hx
    · exact htoken
    · exact ih hparent x hx

theorem climb_isChain (h : Climb (quoteEdge env) token path stop) :
    List.IsChain (fun x y => env.quoteToken x = y) (path ++ [stop]) := by
  induction h with
  | here a => exact List.isChain_singleton _
  | up hstep hrest ih =>
    have hedge := (quoteEdge_eq_some.mp hstep).2.2
    cases hrest with
    | here _ => simpa using hedge
    | up hstep' _ => exact List.isChain_cons_cons.mpr ⟨hedge, ih⟩

theorem TradePath.unique (hacyclic : Acyclic (quoteEdge env)) {tokens' : List Address}
    (h : TradePath env tokenIn tokenOut tokens) (h' : TradePath env tokenIn tokenOut tokens') :
    tokens = tokens' := by
  obtain ⟨up, lca, down, hlca, hup, hdown, rfl⟩ := h
  obtain ⟨up', lca', down', hlca', hup', hdown', rfl⟩ := h'
  obtain rfl := hlca.unique hacyclic hlca'
  rw [hup.unique_of_acyclic hacyclic hup', hdown.unique_of_acyclic hacyclic hdown']

theorem TradePath.isTip20 (h : TradePath env tokenIn tokenOut tokens)
    (hin : Chain.isTip20 tokenIn = true) (hout : Chain.isTip20 tokenOut = true) :
    ∀ token ∈ tokens, Chain.isTip20 token = true := by
  obtain ⟨up, lca, down, _, hup, hdown, rfl⟩ := h
  intro token hmem
  have hcases : token ∈ up ++ [lca] ∨ token ∈ down ++ [lca] := by
    simp only [List.mem_append, List.mem_cons, List.mem_reverse, List.not_mem_nil] at hmem ⊢
    tauto
  rcases hcases with hmem | hmem
  · exact climb_isTip20 hup hin token hmem
  · exact climb_isTip20 hdown hout token hmem

/-- Neighbours on a trade path are joined by a quote edge in one direction. -/
theorem TradePath.isChain (h : TradePath env tokenIn tokenOut tokens) :
    List.IsChain (fun x y => env.quoteToken x = y ∨ env.quoteToken y = x) tokens := by
  obtain ⟨up, lca, down, _, hup, hdown, rfl⟩ := h
  refine List.isChain_split.mpr ⟨(climb_isChain hup).imp fun _ _ => Or.inl, ?_⟩
  have hreverse : lca :: down.reverse = (down ++ [lca]).reverse := by simp
  rw [hreverse, List.isChain_reverse]
  exact (climb_isChain hdown).imp fun _ _ => Or.inr

theorem TradePath.nodup (hacyclic : Acyclic (quoteEdge env))
    (h : TradePath env tokenIn tokenOut tokens) : tokens.Nodup := by
  obtain ⟨up, lca, down, hlca, hup, hdown, rfl⟩ := h
  -- A token on both branches would be a lower common ancestor.
  have hapart : ∀ x ∈ up, x ∉ down := by
    intro x hx hx'
    obtain ⟨left, right, _, hne, hleft, hright⟩ := hup.split hx
    obtain ⟨left', _, _, _, hleft', _⟩ := hdown.split hx'
    obtain ⟨path, habove⟩ := hlca.lowest x ⟨left, hleft⟩ ⟨left', hleft'⟩
    have hloop := hacyclic _ _ (hright.append habove)
    exact hne (List.append_eq_nil_iff.mp hloop).1
  have hnodupUp := hup.nodup_of_acyclic hacyclic
  have hnodupDown := hdown.nodup_of_acyclic hacyclic
  grind

end Graph

/-! ## Walks to the root -/

section Walks

variable {ctx : Context} {s : DexState} {token tokenIn tokenOut : Address} {fuel : ℕ}

theorem findPathToRoot_root :
    findPathToRoot ctx (fuel + 1) pathUsdAddress s = .ok [pathUsdAddress] s := by
  rfl

theorem findPathToRoot_stop (htoken : isTip20 token = false) :
    findPathToRoot ctx (fuel + 1) token s = .error (.token (.tip20 .invalidToken)) s := by
  have hother : token ≠ pathUsdAddress := by
    rintro rfl
    exact absurd htoken (by decide)
  unfold findPathToRoot fromAddress
  rw [if_neg hother, htoken]
  rfl

theorem findPathToRoot_step (hother : token ≠ pathUsdAddress) (htoken : isTip20 token = true) :
    findPathToRoot ctx (fuel + 1) token s =
      (findPathToRoot ctx fuel (ctx.env.quoteToken token) >>= fun rest =>
        pure (token :: rest)) s := by
  rw [findPathToRoot, if_neg hother]
  unfold fromAddress
  rw [htoken]
  rfl

variable {root : Address}

/-- With enough steps the walk ends: at pathUSD, or at an address that is no token. -/
theorem findPathToRoot_cases {path : List Address}
    (hclimb : Climb (quoteEdge ctx.env) token path root) (hroot : quoteEdge ctx.env root = none)
    (htoken : isTip20 token = true) :
    ∀ {fuel : ℕ}, path.length + 2 ≤ fuel →
      (∃ walk, findPathToRoot ctx fuel token s = .ok (walk ++ [pathUsdAddress]) s ∧
        Climb (quoteEdge ctx.env) token walk pathUsdAddress) ∨
      findPathToRoot ctx fuel token s = .error (.token (.tip20 .invalidToken)) s ∧
        ¬ Above (quoteEdge ctx.env) token pathUsdAddress := by
  induction hclimb with
  | here a =>
    intro fuel hfuel
    obtain ⟨fuel, rfl⟩ : ∃ rest, fuel = rest + 2 := ⟨fuel - 2, by simp at hfuel; omega⟩
    by_cases husd : a = pathUsdAddress
    · subst husd
      exact .inl ⟨[], findPathToRoot_root, .here _⟩
    · have hquote : isTip20 (ctx.env.quoteToken a) = false := by
        by_contra hquote
        rw [Bool.not_eq_false] at hquote
        exact nomatch hroot.symm.trans (quoteEdge_eq_some.mpr ⟨htoken, hquote, rfl⟩)
      refine .inr ⟨?_, fun ⟨walk, hwalk⟩ => husd (hwalk.eq_of_root hroot).2⟩
      rw [findPathToRoot_step husd htoken]
      exact bind_error.mpr (.inl (findPathToRoot_stop hquote))
  | @up a b _ _ hstep hrest ih =>
    intro fuel hfuel
    obtain ⟨fuel, rfl⟩ : ∃ rest, fuel = rest + 1 := ⟨fuel - 1, by omega⟩
    by_cases husd : a = pathUsdAddress
    · subst husd
      exact .inl ⟨[], findPathToRoot_root, .here _⟩
    · obtain ⟨_, hparent, hquote⟩ := quoteEdge_eq_some.mp hstep
      rw [findPathToRoot_step husd htoken, hquote]
      rcases ih hroot hparent (Nat.le_of_succ_le_succ hfuel) with
        ⟨walk, hrun, hwalk⟩ | ⟨hrun, hnot⟩
      · exact .inl ⟨a :: walk, bind_ok.mpr ⟨_, _, hrun, rfl⟩, .up hstep hwalk⟩
      · refine .inr ⟨bind_error.mpr (.inl hrun), ?_⟩
        rintro ⟨walk, hwalk⟩
        cases hwalk with
        | here _ => exact husd rfl
        | up hstep' hwalk =>
          obtain rfl := Option.some.inj (hstep.symm.trans hstep')
          exact hnot ⟨_, hwalk⟩

/-- What the source computes from the two walks is a lowest common ancestor and the
climbs to it. -/
theorem lca_of_walks {env : TokenEnv} (hacyclic : Acyclic (quoteEdge env))
    {walkIn walkOut : List Address} (hin : Climb (quoteEdge env) tokenIn walkIn root)
    (hout : Climb (quoteEdge env) tokenOut walkOut root) :
    ∃ lca up down, LowestCommon (quoteEdge env) tokenIn tokenOut lca ∧
      Climb (quoteEdge env) tokenIn up lca ∧ Climb (quoteEdge env) tokenOut down lca ∧
      ((walkIn ++ [root]).find? fun token => (walkOut ++ [root]).contains token) = some lca ∧
      (walkIn ++ [root]).takeWhile (fun token => token ≠ lca) = up ∧
      (walkOut ++ [root]).takeWhile (fun token => token ≠ lca) = down := by
  have hsome : ((walkIn ++ [root]).find? fun token =>
      (walkOut ++ [root]).contains token).isSome = true := by
    rw [List.find?_isSome]
    exact ⟨root, by simp, by simp⟩
  obtain ⟨lca, hfind⟩ := Option.isSome_iff_exists.mp hsome
  obtain ⟨hmem, up, above, hup, hbefore⟩ := List.find?_eq_some_iff_append.mp hfind
  have hmem : lca ∈ walkOut ++ [root] := by simpa using hmem
  obtain ⟨down, above', hdown⟩ := List.append_of_mem hmem
  obtain ⟨hclimbUp, habove⟩ := hin.take hup
  obtain ⟨hclimbDown, _⟩ := hout.take hdown
  have hapart : ∀ x ∈ up, x ∉ walkOut ++ [root] := fun x hx => by simpa using hbefore x hx
  refine ⟨lca, up, down, .of_first hacyclic hout hclimbUp hclimbDown habove hapart, hclimbUp,
    hclimbDown, hfind, ?_, ?_⟩
  · have hnodup := hin.nodup_of_acyclic hacyclic
    rw [hup] at hnodup ⊢
    exact takeWhile_ne hnodup
  · have hnodup := hout.nodup_of_acyclic hacyclic
    rw [hdown] at hnodup ⊢
    exact takeWhile_ne hnodup

/-- `find_trade_path` validates a trade path, or stops at an address that is no token
because a quote chain does not lead to pathUSD. -/
theorem findTradePath_cases [BookHash] (hacyclic : Acyclic (quoteEdge ctx.env))
    (hne : tokenIn ≠ tokenOut) (hin : isTip20 tokenIn = true) (hout : isTip20 tokenOut = true)
    {pathIn pathOut : List Address} {rootIn rootOut : Address}
    (hclimbIn : Climb (quoteEdge ctx.env) tokenIn pathIn rootIn)
    (hrootIn : quoteEdge ctx.env rootIn = none)
    (hclimbOut : Climb (quoteEdge ctx.env) tokenOut pathOut rootOut)
    (hrootOut : quoteEdge ctx.env rootOut = none)
    (hdepthIn : pathIn.length + 2 ≤ ctx.routeDepth)
    (hdepthOut : pathOut.length + 2 ≤ ctx.routeDepth) :
    (Routable ctx.env tokenIn tokenOut ∧ ∃ tokens, TradePath ctx.env tokenIn tokenOut tokens ∧
        findTradePath ctx tokenIn tokenOut s = validateAndBuildRoute ctx tokens s) ∨
      ¬ Routable ctx.env tokenIn tokenOut ∧
        findTradePath ctx tokenIn tokenOut s = .error (.token (.tip20 .invalidToken)) s := by
  have hstart : findTradePath ctx tokenIn tokenOut s =
      (if ctx.env.quoteToken tokenIn = tokenOut ∨ ctx.env.quoteToken tokenOut = tokenIn then
        validateAndBuildRoute ctx [tokenIn, tokenOut]
      else do
        let pathIn ← findPathToRoot ctx ctx.routeDepth tokenIn
        let pathOut ← findPathToRoot ctx ctx.routeDepth tokenOut
        let lca ← okOr (pathIn.find? fun token => pathOut.contains token) (.dex .pairDoesNotExist)
        let upwards := pathIn.takeWhile (fun token => token ≠ lca) ++ [lca]
        let downwards := (pathOut.takeWhile fun token => token ≠ lca).reverse
        validateAndBuildRoute ctx (upwards ++ downwards) : DexM (List Hop)) s := by
    unfold findTradePath require
    rw [if_pos hne, if_pos ⟨hin, hout⟩]
    rfl
  rw [hstart]
  by_cases hdirect : ctx.env.quoteToken tokenIn = tokenOut ∨ ctx.env.quoteToken tokenOut = tokenIn
  · rw [if_pos hdirect]
    refine .inl ⟨?_, [tokenIn, tokenOut], ?_, rfl⟩
    · exact hdirect.imp_right .inl
    · rcases hdirect with hquote | hquote
      · have hclimb : Climb (quoteEdge ctx.env) tokenIn [tokenIn] tokenOut :=
          .up (quoteEdge_eq_some.mpr ⟨hin, hout, hquote⟩) (.here _)
        exact ⟨[tokenIn], tokenOut, [], ⟨⟨_, hclimb⟩, ⟨_, .here _⟩, fun _ _ habove => habove⟩,
          hclimb, .here _, rfl⟩
      · have hclimb : Climb (quoteEdge ctx.env) tokenOut [tokenOut] tokenIn :=
          .up (quoteEdge_eq_some.mpr ⟨hout, hin, hquote⟩) (.here _)
        exact ⟨[], tokenIn, [tokenOut], ⟨⟨_, .here _⟩, ⟨_, hclimb⟩, fun _ habove _ => habove⟩,
          .here _, hclimb, rfl⟩
  · rw [if_neg hdirect]
    rcases findPathToRoot_cases hclimbIn hrootIn hin hdepthIn with
      ⟨walkIn, hrunIn, hin'⟩ | ⟨hrunIn, hnot⟩
    · rcases findPathToRoot_cases hclimbOut hrootOut hout hdepthOut with
        ⟨walkOut, hrunOut, hout'⟩ | ⟨hrunOut, hnot⟩
      · refine .inl ⟨.inr (.inr ⟨⟨_, hin'⟩, ⟨_, hout'⟩⟩), ?_⟩
        obtain ⟨lca, up, down, hlca, hup, hdown, hfind, htakeIn, htakeOut⟩ :=
          lca_of_walks hacyclic hin' hout'
        refine ⟨up ++ lca :: down.reverse, ⟨up, lca, down, hlca, hup, hdown, rfl⟩, ?_⟩
        rw [bind_eq_of_ok hrunIn, bind_eq_of_ok hrunOut, hfind]
        show validateAndBuildRoute ctx _ s = _
        rw [htakeIn, htakeOut, List.append_assoc]
        rfl
      · refine .inr ⟨fun hroutable => ?_, ?_⟩
        · rcases hroutable with hquote | hquote | ⟨_, habove⟩
          · exact hdirect (.inl hquote)
          · exact hdirect (.inr hquote)
          · exact hnot habove
        · exact bind_error.mpr (.inr ⟨_, _, hrunIn, bind_error.mpr (.inl hrunOut)⟩)
    · refine .inr ⟨fun hroutable => ?_, bind_error.mpr (.inl hrunIn)⟩
      rcases hroutable with hquote | hquote | ⟨habove, _⟩
      · exact hdirect (.inl hquote)
      · exact hdirect (.inr hquote)
      · exact hnot habove

end Walks

/-! ## Validation -/

section Validation

variable [BookHash] {ctx : Context} {s : DexState} {tokenIn tokenOut : Address}

/-- One edge: a paused token stops the route, then a missing book. -/
theorem buildHop_eq (hin : isTip20 tokenIn = true) (hout : isTip20 tokenOut = true)
    (hedge : ctx.env.quoteToken tokenIn = tokenOut ∨ ctx.env.quoteToken tokenOut = tokenIn) :
    buildHop ctx tokenIn tokenOut s =
      if ctx.spec.isT3 = true ∧ ctx.env.paused tokenIn = true then
        .error (.token (.tip20 .contractPaused)) s
      else if (s.books (edgeHop ctx.env (tokenIn, tokenOut)).1).base = 0 then
        .error (.dex .pairDoesNotExist) s
      else .ok (edgeHop ctx.env (tokenIn, tokenOut)) s := by
  have hpause : ∀ {α : Type} (f : Unit → DexM α),
      (onlyIf (ctx.spec.isT3 = true) (liftToken (checkNotPaused ctx.env tokenIn)) >>= f) s =
        if ctx.spec.isT3 = true ∧ ctx.env.paused tokenIn = true then
          .error (.token (.tip20 .contractPaused)) s
        else f () s := by
    intro α f
    unfold onlyIf checkNotPaused
    cases ctx.spec.isT3 with
    | false => rfl
    | true =>
      cases ctx.env.paused tokenIn with
      | false | true => rfl
  have hfrom : ∀ {α : Type} {token : Address} (f : Unit → DexM α), isTip20 token = true →
      (liftToken (fromAddress token) >>= f) s = f () s := by
    intro α token f htoken
    unfold fromAddress
    rw [htoken]
    rfl
  unfold buildHop
  rw [hfrom _ hin, hpause]
  split
  · rfl
  · have hbook : ∀ (key : B256) (forward : Bool),
        ((get >>= fun s => require ((s.books key).base ≠ 0) (.dex .pairDoesNotExist) >>= fun _ =>
          pure (key, forward)) : DexM Hop) s =
        if (s.books key).base = 0 then .error (.dex .pairDoesNotExist) s
        else .ok (key, forward) s := by
      intro key forward
      show (require ((s.books key).base ≠ 0) _ >>= fun _ => pure (key, forward) : DexM Hop) s = _
      unfold require
      by_cases hmissing : (s.books key).base = 0
      · rw [if_neg (not_not.mpr hmissing), if_pos hmissing]
        rfl
      · rw [if_pos hmissing, if_neg hmissing]
        rfl
    generalize hforward : decide (ctx.env.quoteToken tokenIn = tokenOut) = forward
    unfold edgeHop
    cases forward with
    | true =>
      rw [if_pos (of_decide_eq_true hforward)]
      refine Eq.trans ?_ (hbook _ true)
      show (get >>= fun s => require ((s.books (computeBookKey tokenIn tokenOut)).base ≠ 0) _ >>=
        fun _ => pure (computeBookKey tokenIn tokenOut, decide (tokenIn = tokenIn)) : DexM Hop)
          s = _
      rw [decide_eq_true rfl]
    | false =>
      have hquote := of_decide_eq_false hforward
      have hreverse := hedge.resolve_left hquote
      have hdifferent : ¬ tokenIn = tokenOut := fun heq => hquote (heq ▸ hreverse)
      have hlink : (onlyIf ((!false) = true) (do
          liftToken (fromAddress tokenOut)
          require (ctx.env.quoteToken tokenOut = tokenIn) (.dex .pairDoesNotExist)) :
          DexM Unit) s = .ok () s := by
        show (liftToken (fromAddress tokenOut) >>= fun _ => require _ _) s = _
        rw [hfrom _ hout]
        exact require_ok.mpr ⟨hreverse, rfl⟩
      rw [if_neg hquote, bind_eq_of_ok hlink]
      refine Eq.trans ?_ (hbook _ false)
      show (get >>= fun s => require ((s.books (computeBookKey tokenOut tokenIn)).base ≠ 0) _ >>=
        fun _ => pure (computeBookKey tokenOut tokenIn, decide (tokenIn = tokenOut)) : DexM Hop)
          s = _
      rw [decide_eq_false hdifferent]

/-- The result of the validation of a path over quote edges. -/
theorem validateAndBuildRoute_cases :
    ∀ {tokens : List Address}, (∀ token ∈ tokens, isTip20 token = true) →
      List.IsChain (fun x y => ctx.env.quoteToken x = y ∨ ctx.env.quoteToken y = x) tokens →
      (validateAndBuildRoute ctx tokens s = .ok ((edges tokens).map (edgeHop ctx.env)) s ∧
        ∀ edge ∈ edges tokens, (s.books (edgeHop ctx.env edge).1).base ≠ 0) ∨
      (validateAndBuildRoute ctx tokens s = .error (.token (.tip20 .contractPaused)) s ∧
        ctx.spec.isT3 = true ∧ ∃ token ∈ tokens, ctx.env.paused token = true) ∨
      (validateAndBuildRoute ctx tokens s = .error (.dex .pairDoesNotExist) s ∧
        ∃ edge ∈ edges tokens, (s.books (edgeHop ctx.env edge).1).base = 0) := by
  intro tokens
  induction tokens with
  | nil => exact fun _ _ => .inl ⟨rfl, nofun⟩
  | cons tokenIn rest ih =>
    intro htokens hchain
    cases rest with
    | nil => exact .inl ⟨rfl, nofun⟩
    | cons tokenOut rest =>
      obtain ⟨hedge, hchain⟩ := List.isChain_cons_cons.mp hchain
      have hhop := @buildHop_eq _ ctx s tokenIn tokenOut (htokens _ (by simp))
        (htokens _ (by simp)) hedge
      have hrest := ih (fun token hmem => htokens token (List.mem_cons_of_mem _ hmem)) hchain
      have hedges : edges (tokenIn :: tokenOut :: rest) =
        (tokenIn, tokenOut) :: edges (tokenOut :: rest) := rfl
      unfold validateAndBuildRoute
      split at hhop
      · rename_i hpaused
        exact .inr (.inl ⟨bind_error.mpr (.inl hhop), hpaused.1, tokenIn, by simp, hpaused.2⟩)
      · split at hhop
        · rename_i hbook
          exact .inr (.inr ⟨bind_error.mpr (.inl hhop), _, List.mem_cons_self, hbook⟩)
        · rename_i hbook
          rw [bind_eq_of_ok hhop]
          rcases hrest with ⟨hrun, hbooks⟩ | ⟨hrun, hspec, token, hmem, hpaused⟩ |
            ⟨hrun, edge, hmem, hmissing⟩
          · refine .inl ⟨bind_ok.mpr ⟨_, _, hrun, rfl⟩, fun edge hmem => ?_⟩
            rcases List.mem_cons.mp hmem with rfl | hmem
            · exact hbook
            · exact hbooks edge hmem
          · exact .inr (.inl ⟨bind_error.mpr (.inl hrun), hspec, token,
              List.mem_cons_of_mem _ hmem, hpaused⟩)
          · exact .inr (.inr ⟨bind_error.mpr (.inl hrun), edge,
              List.mem_cons_of_mem _ hmem, hmissing⟩)

/-- Trade paths: in a graph without cycles, for two different TIP-20 tokens and enough steps
for the walks,
* a route found is the one of the trade path, which climbs to the lowest common ancestor
  and repeats neither a token nor a book;
* `PairDoesNotExist` comes from an edge of the trade path without a book;
* if the tokens quote each other or both lead to pathUSD, and no token of the path is
  paused, the route is found exactly when every edge has its book, and else fails with
  `PairDoesNotExist`;
* otherwise, in particular without a common ancestor, it fails with `InvalidToken`. -/
theorem findTradePath_simple {env : TokenEnv} (hacyclic : Acyclic (quoteEdge env))
    (hne : tokenIn ≠ tokenOut) (hin : isTip20 tokenIn = true) (hout : isTip20 tokenOut = true) :
    ∃ depth, ∀ (ctx : Context) (s : DexState), ctx.env = env → depth ≤ ctx.routeDepth →
      (∀ hops s', findTradePath ctx tokenIn tokenOut s = .ok hops s' →
        ∃ tokens, TradePath env tokenIn tokenOut tokens ∧ tokens.Nodup ∧
          List.IsChain (fun x y => env.quoteToken x = y ∨ env.quoteToken y = x) tokens ∧
          hops = (edges tokens).map (edgeHop env) ∧ (hops.map Prod.fst).Nodup) ∧
      (∀ s', findTradePath ctx tokenIn tokenOut s = .error (.dex .pairDoesNotExist) s' →
        ∃ tokens, TradePath env tokenIn tokenOut tokens ∧
          ∃ edge ∈ edges tokens, (s.books (edgeHop env edge).1).base = 0) ∧
      (∀ tokens, Routable env tokenIn tokenOut → TradePath env tokenIn tokenOut tokens →
        (ctx.spec.isT3 = true → ∀ token ∈ tokens, env.paused token = false) →
        findTradePath ctx tokenIn tokenOut s =
          if ∀ edge ∈ edges tokens, (s.books (edgeHop env edge).1).base ≠ 0 then
            .ok ((edges tokens).map (edgeHop env)) s
          else .error (.dex .pairDoesNotExist) s) ∧
      (¬ Routable env tokenIn tokenOut →
        findTradePath ctx tokenIn tokenOut s = .error (.token (.tip20 .invalidToken)) s) := by
  obtain ⟨pathIn, rootIn, hclimbIn, hrootIn⟩ := hacyclic.grounded (quoteEdge_finite env) tokenIn
  obtain ⟨pathOut, rootOut, hclimbOut, hrootOut⟩ :=
    hacyclic.grounded (quoteEdge_finite env) tokenOut
  refine ⟨max pathIn.length pathOut.length + 2, ?_⟩
  rintro ctx s rfl hdepth
  have hcases := @findTradePath_cases ctx s tokenIn tokenOut _ hacyclic hne hin hout pathIn pathOut
    rootIn rootOut hclimbIn hrootIn hclimbOut hrootOut (by omega) (by omega)
  have hvalidate : ∀ tokens, TradePath ctx.env tokenIn tokenOut tokens → _ := fun tokens htrade =>
    @validateAndBuildRoute_cases _ ctx s tokens (htrade.isTip20 hin hout) htrade.isChain
  refine ⟨fun hops s' hrun => ?_, fun s' hrun => ?_, fun tokens hroutable htrade hunpaused => ?_,
    fun hunroutable => ?_⟩
  · rcases hcases with ⟨_, tokens, htrade, heq⟩ | ⟨_, heq⟩
    · rw [heq] at hrun
      refine ⟨tokens, htrade, htrade.nodup hacyclic, htrade.isChain, ?_,
        validateAndBuildRoute_nodup (htrade.nodup hacyclic) hrun⟩
      rcases hvalidate tokens htrade with ⟨hok, _⟩ | ⟨herror, _⟩ | ⟨herror, _⟩
      · rw [hok] at hrun
        cases hrun
        rfl
      · exact nomatch herror.symm.trans hrun
      · exact nomatch herror.symm.trans hrun
    · exact nomatch heq.symm.trans hrun
  · rcases hcases with ⟨_, tokens, htrade, heq⟩ | ⟨_, heq⟩
    · rw [heq] at hrun
      rcases hvalidate tokens htrade with ⟨hok, _⟩ | ⟨herror, _⟩ | ⟨_, hmissing⟩
      · exact nomatch hok.symm.trans hrun
      · exact nomatch herror.symm.trans hrun
      · exact ⟨tokens, htrade, hmissing⟩
    · exact nomatch heq.symm.trans hrun
  · rcases hcases with ⟨_, tokens', htrade', heq⟩ | ⟨hnot, _⟩
    · obtain rfl := htrade.unique hacyclic htrade'
      rw [heq]
      rcases hvalidate tokens htrade with ⟨hok, hbooks⟩ | ⟨_, hspec, token, hmem, hpaused⟩ |
        ⟨herror, edge, hmem, hmissing⟩
      · rw [if_pos hbooks, hok]
      · exact nomatch (hunpaused hspec token hmem).symm.trans hpaused
      · rw [if_neg fun hbooks => hbooks edge hmem hmissing, herror]
    · exact absurd hroutable hnot
  · rcases hcases with ⟨hroutable, _⟩ | ⟨_, heq⟩
    · exact absurd hroutable hunroutable
    · exact heq

end Validation

/-! ## Samples -/

/-- Two tokens quoted in pathUSD, and one quoted in a root of its own. -/
def sampleQuotes (token : Address) : Address :=
  if token = pathUsdAddress + 1 ∨ token = pathUsdAddress + 2 then pathUsdAddress
  else if token = pathUsdAddress + 3 then pathUsdAddress + 4
  else 0

def sampleGraph : TokenEnv := { TokenEnv.permissive 0 with quoteToken := sampleQuotes }

theorem sampleGraph_edge {token parent : Address}
    (h : quoteEdge sampleGraph token = some parent) :
    (token = pathUsdAddress + 1 ∨ token = pathUsdAddress + 2) ∧ parent = pathUsdAddress ∨
      token = pathUsdAddress + 3 ∧ parent = pathUsdAddress + 4 := by
  obtain ⟨_, hparent, hquote⟩ := quoteEdge_eq_some.mp h
  replace hquote : sampleQuotes token = parent := hquote
  unfold sampleQuotes at hquote
  split at hquote
  · rename_i htoken
    exact .inl ⟨htoken, hquote.symm⟩
  · split at hquote
    · rename_i htoken
      exact .inr ⟨htoken, hquote.symm⟩
    · rw [← hquote] at hparent
      exact absurd hparent (by decide)

theorem sampleGraph_acyclic : Acyclic (quoteEdge sampleGraph) := by
  refine .of_rank
    (fun token => if token = pathUsdAddress ∨ token = pathUsdAddress + 4 then 0 else 1)
    fun token parent h => ?_
  rcases sampleGraph_edge h with ⟨rfl | rfl, rfl⟩ | ⟨rfl, rfl⟩ <;> decide

/-- An exchange in which every book exists. -/
def sampleBooks : DexState where
  toDexCore := { DexCore.genesis (fun _ _ => 0) with
    books := fun _ => Orderbook.new 1 2 0 }
  storageCredits := fun _ => 0
  credits := ⟨0, .preserve, 0, 0⟩

theorem findTradePath_simple_sample :
    letI := BookHash.pairing
    ∃ depth, findTradePath ⟨.T8, sampleGraph, depth⟩ (pathUsdAddress + 1) (pathUsdAddress + 2)
      sampleBooks = .ok [(computeBookKey (pathUsdAddress + 1) pathUsdAddress, true),
        (computeBookKey (pathUsdAddress + 2) pathUsdAddress, false)] sampleBooks := by
  let := BookHash.pairing
  obtain ⟨depth, hall⟩ := @findTradePath_simple _ (pathUsdAddress + 1) (pathUsdAddress + 2)
    sampleGraph sampleGraph_acyclic (by decide) (by decide) (by decide)
  have hup : Climb (quoteEdge sampleGraph) (pathUsdAddress + 1) [pathUsdAddress + 1]
      pathUsdAddress := .up (by decide) (.here _)
  have hdown : Climb (quoteEdge sampleGraph) (pathUsdAddress + 2) [pathUsdAddress + 2]
      pathUsdAddress := .up (by decide) (.here _)
  have hlca : LowestCommon (quoteEdge sampleGraph) (pathUsdAddress + 1) (pathUsdAddress + 2)
      pathUsdAddress :=
    .of_first sampleGraph_acyclic hdown hup hdown ⟨_, .here _⟩ (by decide)
  obtain ⟨_, _, hfound, _⟩ := hall ⟨.T8, sampleGraph, depth⟩ sampleBooks rfl le_rfl
  have hroute := hfound [pathUsdAddress + 1, pathUsdAddress, pathUsdAddress + 2]
    (.inr (.inr ⟨⟨_, hup⟩, ⟨_, hdown⟩⟩)) ⟨_, _, _, hlca, hup, hdown, rfl⟩ fun _ _ _ => rfl
  exact ⟨depth, (hroute.trans (if_pos fun _ _ => Nat.one_ne_zero)).trans rfl⟩

/-- Without a common ancestor the error is not `PairDoesNotExist`: the walk of the token
outside the tree of pathUSD fails with `InvalidToken`. -/
theorem findTradePath_no_common_ancestor :
    letI := BookHash.pairing
    Acyclic (quoteEdge sampleGraph) ∧
      (¬ ∃ token, Above (quoteEdge sampleGraph) (pathUsdAddress + 3) token ∧
        Above (quoteEdge sampleGraph) (pathUsdAddress + 1) token) ∧
      findTradePath ⟨.T8, sampleGraph, 10⟩ (pathUsdAddress + 3) (pathUsdAddress + 1) sampleBooks =
        .error (.token (.tip20 .invalidToken)) sampleBooks := by
  refine ⟨sampleGraph_acyclic, ?_, rfl⟩
  -- The two trees are one edge high.
  have habove : ∀ {start token parent : Address}, quoteEdge sampleGraph start = some parent →
      quoteEdge sampleGraph parent = none → Above (quoteEdge sampleGraph) start token →
      token = start ∨ token = parent := by
    rintro start token parent hedge hroot ⟨path, hclimb⟩
    cases hclimb with
    | here _ => exact .inl rfl
    | up hstep hrest =>
      obtain rfl := Option.some.inj (hedge.symm.trans hstep)
      exact .inr (hrest.eq_of_root hroot).2.symm
  rintro ⟨token, hin, hout⟩
  have hout := @habove _ _ pathUsdAddress (by decide) (by decide) hout
  rcases @habove _ _ (pathUsdAddress + 4) (by decide) (by decide) hin with rfl | rfl
  · exact absurd hout (by decide)
  · exact absurd hout (by decide)

end Monotempo.Dex
