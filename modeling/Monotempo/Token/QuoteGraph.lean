/-
  The graph of quote tokens.

  Source: `crates/precompiles/src/tip20_factory/mod.rs` (`is_tip20`, `create_token`,
  `create_token_reserved_address`), `tip20/mod.rs` (`initialize`,
  `set_next_quote_token`, `complete_quote_token_update`) and
  `stablecoin_dex/mod.rs` (`find_path_to_root`).

  The state has what the calls read and write: which tokens have code, their
  currencies, and their current and staged quote tokens.  Names, symbols, supply caps
  and policies are left out.  Roles are granted by other calls, so who is an admin is
  an answer that each call finds.
-/
import Monotempo.Dex.Swap
import Monotempo.Foundation.Climb

set_option autoImplicit false

namespace Monotempo.Token

open Chain Foundation Function

variable {path : List Address} {currency : String} {sender root : Address} {fuel : ℕ}

/-! ## The model -/

/-- The reverts of the modelled calls. -/
inductive QuoteError where
  | uninitialized
  | unauthorized
  | invalidToken
  | invalidQuoteToken
  | tokenAlreadyExists (token : Address)
  | addressReserved
  | addressNotReserved
  /-- the walk of `complete_quote_token_update` did not end within the given steps -/
  | unbounded
  deriving DecidableEq, Repr

/-- The part of the token storage that the quote graph lives in. -/
structure TokenGraph where
  /-- the account has code -/
  deployed : Address → Bool
  currency : Address → String
  quoteToken : Address → Address
  nextQuoteToken : Address → Address

/-- What a call runs under. -/
structure QuoteContext where
  /-- `check_role` of a token and an account for `DEFAULT_ADMIN_ROLE` -/
  isAdmin : Address → Address → Bool
  /-- the first eight bytes of the hash of a sender and a salt -/
  saltHash : Address → B256 → ℕ
  /-- a bound on the steps of the cycle check -/
  depth : ℕ

abbrev QuoteM := EStateM QuoteError TokenGraph

/-- `USD_CURRENCY`. -/
def usdCurrency : String := "USD"

/-- `RESERVED_SIZE`. -/
def reservedSize : ℕ := 1024

/-- `TIP20_PREFIX_BYTES` followed by the lower eight bytes. -/
def tip20Address (lowerBytes : ℕ) : Address := 0x20C000000000000000000000 * 2 ^ 64 + lowerBytes

/-- `TIP20Factory::is_tip20`. -/
def TokenGraph.isTip20 (s : TokenGraph) (token : Address) : Bool :=
  Chain.isTip20 token && s.deployed token

/-- `initialize`. -/
def TokenGraph.initialise (s : TokenGraph) (token : Address) (currency : String)
    (quoteToken : Address) : TokenGraph where
  deployed := update s.deployed token true
  currency := update s.currency token currency
  quoteToken := update s.quoteToken token quoteToken
  nextQuoteToken := update s.nextQuoteToken token quoteToken

/-- A USD token is quoted in a USD token. -/
def checkCurrency (currency : String) (quoteToken : Address) : QuoteM Unit :=
  onlyIf (currency = usdCurrency) do
    require (Chain.isTip20 quoteToken) .invalidToken
    let s ← get
    require (s.currency quoteToken = usdCurrency) .invalidQuoteToken

/-- `create_token`. -/
def createToken (ctx : QuoteContext) (sender : Address) (salt : B256) (currency : String)
    (quoteToken : Address) : QuoteM Unit := do
  let lowerBytes := ctx.saltHash sender salt % 2 ^ 64
  let token := tip20Address lowerBytes
  let s ← get
  require (s.isTip20 token = false) (.tokenAlreadyExists token)
  require (s.isTip20 quoteToken) .invalidQuoteToken
  checkCurrency currency quoteToken
  require (reservedSize ≤ lowerBytes) .addressReserved
  require (Chain.isTip20 token) .invalidToken
  modify fun s => s.initialise token currency quoteToken

/-- `create_token_reserved_address`. -/
def createTokenReservedAddress (address : Address) (currency : String) (quoteToken : Address) :
    QuoteM Unit := do
  require (Chain.isTip20 address) .invalidToken
  let s ← get
  require (s.isTip20 address = false) (.tokenAlreadyExists address)
  onlyIf (quoteToken ≠ 0) do
    require (address ≠ pathUsdAddress ∧ s.isTip20 quoteToken) .invalidQuoteToken
    checkCurrency currency quoteToken
  require (address % 2 ^ 64 < reservedSize) .addressNotReserved
  modify fun s => s.initialise address currency quoteToken

/-- The dispatcher refuses tokens without code, and the call everyone but an admin. -/
def checkAdmin (ctx : QuoteContext) (sender token : Address) : QuoteM Unit := do
  let s ← get
  require (s.isTip20 token) .uninitialized
  require (ctx.isAdmin token sender) .unauthorized

/-- `set_next_quote_token`. -/
def setNextQuoteToken (ctx : QuoteContext) (sender token newQuoteToken : Address) :
    QuoteM Unit := do
  checkAdmin ctx sender token
  require (token ≠ pathUsdAddress) .invalidQuoteToken
  let s ← get
  require (s.isTip20 newQuoteToken) .invalidQuoteToken
  checkCurrency (s.currency token) newQuoteToken
  modify fun s =>
    { s with nextQuoteToken := update s.nextQuoteToken token newQuoteToken }

/-- The loop of `complete_quote_token_update`, from the staged quote token to pathUSD. -/
def checkNoLoop (token : Address) : ℕ → Address → QuoteM Unit
  | 0, _ => throw .unbounded
  | fuel + 1, current =>
    if current = pathUsdAddress then pure ()
    else do
      require (current ≠ token) .invalidQuoteToken
      require (Chain.isTip20 current) .invalidToken
      let s ← get
      checkNoLoop token fuel (s.quoteToken current)

/-- `complete_quote_token_update`. -/
def completeQuoteTokenUpdate (ctx : QuoteContext) (sender token : Address) : QuoteM Unit := do
  checkAdmin ctx sender token
  let s ← get
  checkNoLoop token ctx.depth (s.nextQuoteToken token)
  modify fun s =>
    { s with quoteToken := update s.quoteToken token (s.nextQuoteToken token) }

/-- The calls that change the graph. -/
inductive QuoteCall where
  | createToken (sender : Address) (salt : B256) (currency : String) (quoteToken : Address)
  | createTokenReservedAddress (address : Address) (currency : String) (quoteToken : Address)
  | setNextQuoteToken (sender token newQuoteToken : Address)
  | completeQuoteTokenUpdate (sender token : Address)
  deriving DecidableEq, Repr

def QuoteCall.run (ctx : QuoteContext) : QuoteCall → QuoteM Unit
  | .createToken sender salt currency quoteToken =>
    Token.createToken ctx sender salt currency quoteToken
  | .createTokenReservedAddress address currency quoteToken =>
    Token.createTokenReservedAddress address currency quoteToken
  | .setNextQuoteToken sender token newQuoteToken =>
    Token.setNextQuoteToken ctx sender token newQuoteToken
  | .completeQuoteTokenUpdate sender token => Token.completeQuoteTokenUpdate ctx sender token

/-- The states reached from genesis, where no token is deployed. -/
inductive QuoteReachable : TokenGraph → Prop
  | genesis {s : TokenGraph} (hdeployed : ∀ token, s.deployed token = false)
      (hquote : ∀ token, s.quoteToken token = 0) : QuoteReachable s
  | call {s s' : TokenGraph} {ctx : QuoteContext} {call : QuoteCall} (h : QuoteReachable s)
      (hrun : call.run ctx s = .ok () s') : QuoteReachable s'

/-! ## The forest -/

/-- The quote token of a token that is not a root: neither pathUSD nor without a quote. -/
def quoteParent (quoteToken : Address → Address) (token : Address) : Option Address :=
  if token = pathUsdAddress ∨ quoteToken token = 0 then none else some (quoteToken token)

/-- Tokens are quoted, now or after a staged update, in deployed tokens, and every quote
chain ends. -/
structure Forest (s : TokenGraph) : Prop where
  token : ∀ token, s.deployed token = true → Chain.isTip20 token = true
  unset : ∀ token, s.deployed token = false → s.quoteToken token = 0
  quoted : ∀ token, s.quoteToken token ≠ 0 → s.deployed (s.quoteToken token) = true
  staged : ∀ token, s.deployed token = true → s.nextQuoteToken token ≠ 0 →
    s.deployed (s.nextQuoteToken token) = true
  grounded : ∀ token, Grounded (quoteParent s.quoteToken) token

section Parents

variable {quoteToken : Address → Address} {token parent : Address}

theorem quoteParent_eq_none :
    quoteParent quoteToken token = none ↔ token = pathUsdAddress ∨ quoteToken token = 0 := by
  unfold quoteParent
  split
  · rename_i hroot
    simp [hroot]
  · rename_i hroot
    simp [hroot]

theorem quoteParent_eq_some :
    quoteParent quoteToken token = some parent ↔
      token ≠ pathUsdAddress ∧ quoteToken token ≠ 0 ∧ quoteToken token = parent := by
  unfold quoteParent
  split
  · tauto
  · rename_i hroot
    rw [not_or] at hroot
    simp [hroot]

theorem quoteParent_update_of_ne {token' value : Address} (h : token' ≠ token) :
    quoteParent (update quoteToken token value) token' = quoteParent quoteToken token' := by
  unfold quoteParent
  rw [update_of_ne h]

theorem quoteParent_update_self {value : Address} :
    quoteParent (update quoteToken token value) token =
      if token = pathUsdAddress ∨ value = 0 then none else some value := by
  unfold quoteParent
  rw [update_self]

end Parents

variable {quoteToken newQuoteToken : Address}

namespace Forest

variable {s : TokenGraph} {token : Address}

theorem genesis (hdeployed : ∀ token, s.deployed token = false)
    (hquote : ∀ token, s.quoteToken token = 0) : Forest s where
  token := fun token h => nomatch (hdeployed token).symm.trans h
  unset := fun token _ => hquote token
  quoted := fun token h => absurd (hquote token) h
  staged := fun token h => nomatch (hdeployed token).symm.trans h
  grounded := fun token => .root (quoteParent_eq_none.mpr (.inr (hquote token)))

/-- Climbing from a deployed token passes deployed tokens only. -/
theorem deployed_of_climb (h : Forest s) (hclimb : Climb (quoteParent s.quoteToken) token path root)
    (htoken : s.deployed token = true) : ∀ x ∈ path ++ [root], s.deployed x = true := by
  induction hclimb with
  | here a =>
    intro x hx
    obtain rfl := List.mem_singleton.mp hx
    exact htoken
  | up hstep _ ih =>
    intro x hx
    rcases List.mem_cons.mp hx with rfl | hx
    · exact htoken
    · obtain ⟨_, hquote, rfl⟩ := quoteParent_eq_some.mp hstep
      exact ih (h.quoted _ hquote) x hx

theorem create (h : Forest s) (htoken : Chain.isTip20 token = true)
    (hnew : s.deployed token = false) (hquote : quoteToken ≠ 0 → s.deployed quoteToken = true) :
    Forest (s.initialise token currency quoteToken) := by
  have hmono : ∀ x, s.deployed x = true → update s.deployed token true x = true := by
    intro x hx
    by_cases heq : x = token
    · rw [heq, update_self]
    · rw [update_of_ne heq]
      exact hx
  refine ⟨fun x hx => ?_, fun x hx => ?_, fun x hx => ?_, fun x hx hne => ?_, fun x => ?_⟩
  · by_cases heq : x = token
    · rw [heq]
      exact htoken
    · exact h.token x ((update_of_ne heq _ _).symm.trans hx)
  · by_cases heq : x = token
    · rw [heq] at hx
      simp [TokenGraph.initialise] at hx
    · exact (update_of_ne heq _ _).trans
        (h.unset x ((update_of_ne heq _ _).symm.trans hx))
  · simp only [TokenGraph.initialise] at hx ⊢
    by_cases heq : x = token
    · rw [heq, update_self] at hx ⊢
      exact hmono _ (hquote hx)
    · rw [update_of_ne heq] at hx ⊢
      exact hmono _ (h.quoted x hx)
  · simp only [TokenGraph.initialise] at hx hne ⊢
    by_cases heq : x = token
    · rw [heq, update_self] at hne ⊢
      exact hmono _ (hquote hne)
    · rw [update_of_ne heq] at hx hne ⊢
      exact hmono _ (h.staged x hx hne)
  · refine (h.grounded x).redirect (fun z hz => quoteParent_update_of_ne hz) ?_
    by_cases hroot : token = pathUsdAddress ∨ quoteToken = 0
    · exact .inl (quoteParent_update_self.trans (if_pos hroot))
    · obtain ⟨path, root, hclimb, hend⟩ := h.grounded quoteToken
      refine .inr ⟨quoteToken, path, root, quoteParent_update_self.trans (if_neg hroot), hclimb,
        hend, fun hmem => ?_⟩
      · have hdeployed := h.deployed_of_climb hclimb (hquote (not_or.mp hroot).2) token hmem
        exact nomatch hnew.symm.trans hdeployed

theorem stage (h : Forest s) (hnew : s.deployed newQuoteToken = true) :
    Forest { s with nextQuoteToken := update s.nextQuoteToken token newQuoteToken } where
  token := h.token
  unset := h.unset
  quoted := h.quoted
  staged := fun x hx hne => by
    simp only at hx hne ⊢
    by_cases heq : x = token
    · rw [heq, update_self]
      exact hnew
    · rw [update_of_ne heq] at hne ⊢
      exact h.staged x hx hne
  grounded := h.grounded

/-- Completing an update to a token whose quote chain leads to pathUSD and avoids the
updated token. -/
theorem complete (h : Forest s) (htoken : s.deployed token = true)
    (hnext : s.nextQuoteToken token ≠ 0)
    (hclimb : Climb (quoteParent s.quoteToken) (s.nextQuoteToken token) path pathUsdAddress)
    (havoid : token ∉ path) :
    Forest { s with
      quoteToken := update s.quoteToken token (s.nextQuoteToken token) } where
  token := h.token
  unset := fun x hx => by
    simp only at hx ⊢
    have heq : x ≠ token := fun heq => nomatch (heq ▸ hx).symm.trans htoken
    rw [update_of_ne heq]
    exact h.unset x hx
  quoted := fun x hx => by
    simp only at hx ⊢
    by_cases heq : x = token
    · rw [heq, update_self]
      exact h.staged token htoken hnext
    · rw [update_of_ne heq] at hx ⊢
      exact h.quoted x hx
  staged := h.staged
  grounded := fun x => by
    refine (h.grounded x).redirect (fun z hz => quoteParent_update_of_ne hz) ?_
    by_cases hroot : token = pathUsdAddress
    · exact .inl (quoteParent_eq_none.mpr (.inl hroot))
    · refine .inr ⟨s.nextQuoteToken token, path, pathUsdAddress,
        quoteParent_update_self.trans (if_neg (not_or.mpr ⟨hroot, hnext⟩)), hclimb,
        quoteParent_eq_none.mpr (.inl rfl), ?_⟩
      simp [havoid, hroot]

end Forest

/-! ## The calls keep the forest -/

variable {token : Address}

section Calls

variable {s s' : TokenGraph} {ctx : QuoteContext} {u : Unit}

theorem TokenGraph.isTip20_eq_true :
    s.isTip20 token = true ↔ Chain.isTip20 token = true ∧ s.deployed token = true :=
  Bool.and_eq_true_iff

theorem checkCurrency_ok (h : checkCurrency currency quoteToken s = .ok u s') :
    s = s' := by
  rcases onlyIf_ok.mp h with ⟨_, h⟩ | ⟨_, h⟩
  · simp only [require_bind_ok, get_bind_ok, require_ok] at h
    exact h.2.2
  · exact h

theorem checkAdmin_ok (h : checkAdmin ctx sender token s = .ok u s') :
    s = s' ∧ s.deployed token = true := by
  unfold checkAdmin at h
  simp only [get_bind_ok, require_bind_ok, require_ok] at h
  exact ⟨h.2.2, (TokenGraph.isTip20_eq_true.mp h.1).2⟩

theorem createToken_forest {salt : B256} (hs : Forest s)
    (h : createToken ctx sender salt currency quoteToken s = .ok u s') : Forest s' := by
  unfold createToken at h
  simp only [get_bind_ok, require_bind_ok] at h
  obtain ⟨hnew, hquote, h⟩ := h
  obtain ⟨_, _, rfl, h⟩ := step_bind_ok checkCurrency_ok h
  simp only [require_bind_ok] at h
  obtain ⟨_, htoken, h⟩ := h
  rw [modify_ok.mp h]
  refine hs.create htoken ?_ fun _ => (TokenGraph.isTip20_eq_true.mp hquote).2
  cases hdeployed : s.deployed _ with
  | false => rfl
  | true => cases hnew.symm.trans (TokenGraph.isTip20_eq_true.mpr ⟨htoken, hdeployed⟩)

theorem createTokenReservedAddress_forest {address : Address} (hs : Forest s)
    (h : createTokenReservedAddress address currency quoteToken s = .ok u s') : Forest s' := by
  unfold createTokenReservedAddress at h
  simp only [get_bind_ok, require_bind_ok] at h
  obtain ⟨htoken, hnew, h⟩ := h
  obtain ⟨_, t, hquote, h⟩ := bind_ok.mp h
  simp only [require_bind_ok] at h
  obtain ⟨_, h⟩ := h
  have hquoted : s = t ∧ (quoteToken ≠ 0 → s.deployed quoteToken = true) := by
    rcases onlyIf_ok.mp hquote with ⟨_, hquote⟩ | ⟨hzero, rfl⟩
    · rw [require_bind_ok] at hquote
      exact ⟨checkCurrency_ok hquote.2, fun _ => (TokenGraph.isTip20_eq_true.mp hquote.1.2).2⟩
    · exact ⟨rfl, fun hne => absurd hne hzero⟩
  obtain ⟨rfl, hquoted⟩ := hquoted
  rw [modify_ok.mp h]
  refine hs.create htoken ?_ hquoted
  cases hdeployed : s.deployed address with
  | false => rfl
  | true => cases hnew.symm.trans (TokenGraph.isTip20_eq_true.mpr ⟨htoken, hdeployed⟩)

theorem setNextQuoteToken_forest (hs : Forest s)
    (h : setNextQuoteToken ctx sender token newQuoteToken s = .ok u s') : Forest s' := by
  obtain ⟨_, _, ⟨rfl, _⟩, h⟩ := step_bind_ok checkAdmin_ok h
  simp only [get_bind_ok, require_bind_ok] at h
  obtain ⟨_, hnew, h⟩ := h
  obtain ⟨_, _, rfl, h⟩ := step_bind_ok checkCurrency_ok h
  rw [modify_ok.mp h]
  exact hs.stage (TokenGraph.isTip20_eq_true.mp hnew).2

/-- The loop returns only at pathUSD, having met TIP-20 addresses other than the token. -/
theorem checkNoLoop_ok :
    ∀ {fuel : ℕ} {current : Address}, checkNoLoop token fuel current s = .ok u s' →
      s = s' ∧ current ≠ 0 ∧
        ∃ path, Climb (quoteParent s.quoteToken) current path pathUsdAddress ∧ token ∉ path := by
  intro fuel
  induction fuel with
  | zero =>
    intro current h
    exact (throw_ok.mp h).elim
  | succ fuel ih =>
    intro current h
    unfold checkNoLoop at h
    split at h
    · rename_i hroot
      obtain ⟨_, rfl⟩ := pure_ok.mp h
      rw [hroot]
      exact ⟨rfl, by decide, [], .here _, List.not_mem_nil⟩
    · rename_i hother
      simp only [require_bind_ok, get_bind_ok] at h
      obtain ⟨hne, htip20, hrest⟩ := h
      obtain ⟨rfl, hquote, path, hclimb, havoid⟩ := ih hrest
      refine ⟨rfl, fun hzero => ?_, current :: path, ?_, ?_⟩
      · rw [hzero] at htip20
        exact absurd htip20 (by decide)
      · exact .up (quoteParent_eq_some.mpr ⟨hother, hquote, rfl⟩) hclimb
      · exact List.not_mem_cons_of_ne_of_not_mem (fun heq => hne heq.symm) havoid

theorem completeQuoteTokenUpdate_forest (hs : Forest s)
    (h : completeQuoteTokenUpdate ctx sender token s = .ok u s') : Forest s' := by
  obtain ⟨_, _, ⟨rfl, htoken⟩, h⟩ := step_bind_ok checkAdmin_ok h
  obtain ⟨_, _, ⟨rfl, hnext, path, hclimb, havoid⟩, h⟩ := step_bind_ok checkNoLoop_ok h
  rw [modify_ok.mp h]
  exact hs.complete htoken hnext hclimb havoid

theorem QuoteReachable.forest (h : QuoteReachable s) : Forest s := by
  induction h with
  | genesis hdeployed hquote => exact Forest.genesis hdeployed hquote
  | @call s s' ctx call _ hrun ih =>
    cases call with
    | createToken sender salt currency quoteToken => exact createToken_forest ih hrun
    | createTokenReservedAddress address currency quoteToken =>
      exact createTokenReservedAddress_forest ih hrun
    | setNextQuoteToken sender token newQuoteToken => exact setNextQuoteToken_forest ih hrun
    | completeQuoteTokenUpdate sender token => exact completeQuoteTokenUpdate_forest ih hrun

end Calls

/-! ## Both loops end -/

section Loops

/-- The cycle check ends within two steps more than the quote chain has. -/
theorem checkNoLoop_bounded {s : TokenGraph} {current : Address}
    (hclimb : Climb (quoteParent s.quoteToken) current path root)
    (hroot : quoteParent s.quoteToken root = none) :
    ∀ {fuel : ℕ}, path.length + 2 ≤ fuel →
      Avoids (fun e => e = QuoteError.unbounded) (fun t => t = s)
        (checkNoLoop token fuel current) := by
  -- Every step below the root takes one step of the chain; the last one leaves the chain
  -- for the zero address, which is no token.
  induction hclimb with
  | here root =>
    intro fuel hfuel
    obtain ⟨fuel, rfl⟩ : ∃ rest, fuel = rest + 2 := ⟨fuel - 2, by simp at hfuel; omega⟩
    refine avoids_ite (fun _ => avoids_pure _) (fun hother => ?_)
    refine avoids_require_bind nofun fun _ => ?_
    refine avoids_require_bind nofun fun _ => avoids_get_bind fun t ht => ?_
    have hzero : t.quoteToken root = 0 := by
      rw [ht]
      exact (quoteParent_eq_none.mp hroot).resolve_left hother
    rw [hzero]
    refine avoids_require_bind nofun fun _ => ?_
    exact avoids_require_bind nofun fun hzero => absurd hzero (by decide)
  | up hstep _ ih =>
    intro fuel hfuel
    obtain ⟨fuel, rfl⟩ : ∃ rest, fuel = rest + 1 := ⟨fuel - 1, by omega⟩
    refine avoids_ite (fun _ => avoids_pure _) (fun hother => ?_)
    refine avoids_require_bind nofun fun _ => ?_
    refine avoids_require_bind nofun fun _ => avoids_get_bind fun t ht => ?_
    rw [ht, (quoteParent_eq_some.mp hstep).2.2]
    exact ih hroot (Nat.le_of_succ_le_succ hfuel)

/-- So does the walk to the root. -/
theorem findPathToRoot_bounded {ctx : Dex.Context}
    (hclimb : Climb (quoteParent ctx.env.quoteToken) token path root)
    (hroot : quoteParent ctx.env.quoteToken root = none) :
    ∀ {fuel : ℕ}, path.length + 2 ≤ fuel →
      Avoids (fun e => e = Dex.Error.unbounded) (fun _ => True)
        (Dex.findPathToRoot ctx fuel token) := by
  have hlift : ∀ token, Avoids (fun e => e = Dex.Error.unbounded) (fun _ => True)
      (Dex.liftToken (fromAddress token)) := by
    intro token
    unfold fromAddress
    split
    · exact avoids_pure _
    · exact avoids_throw nofun
  induction hclimb with
  | here root =>
    intro fuel hfuel
    obtain ⟨fuel, rfl⟩ : ∃ rest, fuel = rest + 2 := ⟨fuel - 2, by simp at hfuel; omega⟩
    refine avoids_ite (fun _ => avoids_pure _) (fun hother => ?_)
    refine avoids_bind (hlift root) fun _ => ?_
    rw [(quoteParent_eq_none.mp hroot).resolve_left hother]
    have hzero : ¬ Dex.Error.token (.tip20 .invalidToken) = .unbounded := nofun
    exact fun _ _ => hzero
  | up hstep _ ih =>
    intro fuel hfuel
    obtain ⟨fuel, rfl⟩ : ∃ rest, fuel = rest + 1 := ⟨fuel - 1, by omega⟩
    refine avoids_ite (fun _ => avoids_pure _) (fun hother => ?_)
    refine avoids_bind (hlift _) fun _ => ?_
    rw [(quoteParent_eq_some.mp hstep).2.2]
    exact avoids_bind (ih hroot (Nat.le_of_succ_le_succ hfuel)) fun _ => avoids_pure _

/-- The quote graph is a forest in every reachable state: quote chains repeat no token and
end at pathUSD or at a token without a quote.  So the cycle check of an update and the walk
of the DEX end on every input. -/
theorem reachable_quote_forest {s : TokenGraph} (h : QuoteReachable s) :
    (∀ token, s.deployed token = true → ∃ path root,
      Climb (quoteParent s.quoteToken) token path root ∧ (path ++ [root]).Nodup ∧
        (root = pathUsdAddress ∨ s.quoteToken root = 0)) ∧
      (∀ token, ∃ bound, ∀ (ctx : QuoteContext) (sender : Address) (s' : TokenGraph),
        bound ≤ ctx.depth →
          completeQuoteTokenUpdate ctx sender token s ≠ .error .unbounded s') ∧
      ∀ token, ∃ bound, ∀ (ctx : Dex.Context) (fuel : ℕ) (t t' : Dex.DexState),
        ctx.env.quoteToken = s.quoteToken → bound ≤ fuel →
          Dex.findPathToRoot ctx fuel token t ≠ .error .unbounded t' := by
  have hforest := h.forest
  refine ⟨fun token _ => ?_, fun token => ?_, fun token => ?_⟩
  · obtain ⟨path, root, hclimb, hroot⟩ := hforest.grounded token
    refine ⟨path, root, hclimb, ?_, quoteParent_eq_none.mp hroot⟩
    rw [← List.concat_eq_append, List.nodup_concat]
    exact ⟨hclimb.notMem_of_root hroot, hclimb.nodup hroot⟩
  · obtain ⟨path, root, hclimb, hroot⟩ := hforest.grounded (s.nextQuoteToken token)
    refine ⟨path.length + 2, fun ctx sender s' hdepth hrun => ?_⟩
    have hadmin : Avoids (fun e => e = QuoteError.unbounded) (fun t => t = s)
        (checkAdmin ctx sender token) :=
      avoids_get_bind fun _ _ => avoids_require_bind nofun fun _ => avoids_require nofun
    have hsafe : Triple (fun t => t = s) (completeQuoteTokenUpdate ctx sender token)
        (fun _ _ => True) (fun e _ => ¬ e = QuoteError.unbounded) := by
      refine triple_bind hadmin fun _ => triple_get_bind fun t ht => ?_
      rw [ht]
      exact triple_bind (checkNoLoop_bounded hclimb hroot hdepth) fun _ =>
        triple_modify fun _ _ => trivial
    exact Triple.error hsafe rfl hrun rfl
  · obtain ⟨path, root, hclimb, hroot⟩ := hforest.grounded token
    refine ⟨path.length + 2, fun ctx fuel t t' hquote hfuel hrun => ?_⟩
    rw [← hquote] at hclimb hroot
    exact Triple.error (findPathToRoot_bounded hclimb hroot hfuel) trivial hrun rfl

end Loops

/-- Before any token is deployed. -/
def genesisGraph : TokenGraph where
  deployed := fun _ => false
  currency := fun _ => ""
  quoteToken := fun _ => 0
  nextQuoteToken := fun _ => 0

/-- pathUSD and two tokens quoted in it are deployed; an update of the first to the second is
staged and completed. -/
theorem reachable_quote_forest_update :
    ∃ s, QuoteReachable s ∧ s.quoteToken (tip20Address 2001) = tip20Address 2002 ∧
      ∃ path root, Climb (quoteParent s.quoteToken) (tip20Address 2001) path root ∧
        (path ++ [root]).Nodup ∧ (root = pathUsdAddress ∨ s.quoteToken root = 0) := by
  let ctx : QuoteContext := ⟨fun _ _ => true, fun _ salt => 2000 + salt, 10⟩
  have hreturned : returned ((do
      (QuoteCall.createTokenReservedAddress pathUsdAddress "USD" 0).run ctx
      (QuoteCall.createToken 9 1 "USD" pathUsdAddress).run ctx
      (QuoteCall.createToken 9 2 "USD" pathUsdAddress).run ctx
      (QuoteCall.setNextQuoteToken 9 (tip20Address 2001) (tip20Address 2002)).run ctx
      (QuoteCall.completeQuoteTokenUpdate 9 (tip20Address 2001)).run ctx
      let s ← get
      require (s.deployed (tip20Address 2001) = true ∧
        s.quoteToken (tip20Address 2001) = tip20Address 2002) .unbounded : QuoteM Unit)
      genesisGraph) = true := by decide +kernel
  obtain ⟨_, _, hrun⟩ := returned_iff.mp hreturned
  obtain ⟨_, s₁, hroot, hrun⟩ := bind_ok.mp hrun
  obtain ⟨_, s₂, hfirst, hrun⟩ := bind_ok.mp hrun
  obtain ⟨_, s₃, hsecond, hrun⟩ := bind_ok.mp hrun
  obtain ⟨_, s₄, hstage, hrun⟩ := bind_ok.mp hrun
  obtain ⟨_, s, hcomplete, hrun⟩ := bind_ok.mp hrun
  obtain ⟨⟨hdeployed, hquote⟩, -⟩ := require_ok.mp hrun
  have hreach : QuoteReachable s :=
    .call (.call (.call (.call (.call (.genesis (fun _ => rfl) fun _ => rfl) hroot) hfirst)
      hsecond) hstage) hcomplete
  obtain ⟨path, root, hclimb, hnodup, hend⟩ := (reachable_quote_forest hreach).1 _ hdeployed
  exact ⟨s, hreach, hquote, path, root, hclimb, hnodup, hend⟩

end Monotempo.Token
