/-
  A recorded transaction cannot be recorded again while it is
  valid.

  A run is a sequence of calls at times that do not decrease, within one fork or across the
  fork that widens the window and the ring.  The map keeps the expiry of every accepted
  hash until it is over; the ring holds the hashes accepted last, in order.
-/
import Monotempo.Nonce.Manager
import Mathlib.Data.Nat.ModEq
import Mathlib.Data.List.Basic

set_option autoImplicit false

namespace Monotempo.Nonce

open Chain Foundation Function

variable {spec : TempoHardfork} {hash : B256}

/-! ## Runs -/

/-- A call, with the fork and the time it is made at. -/
structure Call where
  spec : TempoHardfork
  timestamp : ℕ
  hash : B256
  validBefore : ℕ

/-- Make a call. -/
def Call.run (call : Call) : NonceM Unit :=
  checkAndMarkExpiringNonce call.spec call.timestamp call.hash call.validBefore

/-- Time does not go back, and neither does the fork. -/
structure Follows (earlier later : Call) : Prop where
  time : earlier.timestamp ≤ later.timestamp
  fork : earlier.spec.isT11 = true → later.spec.isT11 = true

/-- The calls made so far and those that were accepted, newest first.  A rejected call leaves
the state it failed in. -/
inductive Run : List Call → List Call → NonceState → Prop where
  | start : Run [] [] .fresh
  | accept {calls accepted : List Call} {s s' : NonceState} {call : Call}
      (run : Run calls accepted s) (follows : ∀ c ∈ calls, Follows c call)
      (ok : call.run s = .ok () s') : Run (call :: calls) (call :: accepted) s'
  | reject {calls accepted : List Call} {s s' : NonceState} {call : Call} {e : NonceError}
      (run : Run calls accepted s) (follows : ∀ c ∈ calls, Follows c call)
      (failed : call.run s = .error e s') : Run (call :: calls) accepted s'

variable {calls accepted : List Call} {s s' : NonceState} {call : Call} {cap : ℕ}

theorem Run.accepted_mem (run : Run calls accepted s) : ∀ c ∈ accepted, c ∈ calls := by
  induction run with
  | start => exact fun c h => h
  | accept run follows ok ih =>
    intro c hc
    rcases List.mem_cons.mp hc with rfl | hc
    · exact List.mem_cons_self
    · exact List.mem_cons_of_mem _ (ih c hc)
  | reject run follows failed ih => exact fun c hc => List.mem_cons_of_mem _ (ih c hc)

theorem Run.window (run : Run calls accepted s) : ∀ c ∈ accepted,
    c.validBefore ≤ c.timestamp + expiringNonceMaxExpirySecs c.spec ∧
      c.validBefore ≤ u64Max := by
  induction run with
  | start => exact nofun
  | accept run follows ok ih =>
    intro c hc
    rcases List.mem_cons.mp hc with rfl | hc
    · have hwindow := (checkAndMark_ok.mp ok).1.window
      omega
    · exact ih c hc
  | reject run follows failed ih => exact ih

theorem Run.sorted (run : Run calls accepted s) :
    accepted.Pairwise fun newer older => older.timestamp ≤ newer.timestamp := by
  induction run with
  | start => exact .nil
  | accept run follows ok ih =>
    exact .cons (fun c hc => (follows c (run.accepted_mem c hc)).time) ih
  | reject run follows failed ih => exact ih

/-! ## The map -/

variable {validBefore : ℕ}

/-- Accepting a hash leaves the expiry of every other live hash. -/
theorem Accepts.seen_of_live {now : ℕ} {other : B256} (h : Accepts spec now hash validBefore s)
    (hlive : now < s.expiringNonceSeen other) :
    (s.accept spec hash validBefore).expiringNonceSeen other = s.expiringNonceSeen other := by
  have hhash : other ≠ hash := fun heq => absurd h.unseen (by rw [← heq]; omega)
  have hkept : s.evicted.expiringNonceSeen other = s.expiringNonceSeen other := by
    unfold NonceState.evicted
    split
    · rfl
    · rename_i hfilled
      refine update_of_ne (fun heq => ?_) _ _
      exact absurd (h.evictable hfilled) (by rw [← heq]; omega)
  show update s.evicted.expiringNonceSeen hash validBefore other = _
  rw [update_of_ne hhash, hkept]

theorem accept_seen_self :
    (s.accept spec hash validBefore).expiringNonceSeen hash = validBefore :=
  update_self _ _ _

/-- While an accepted call is valid, the map has its expiry. -/
theorem Run.seen (run : Run calls accepted s) : ∀ c ∈ accepted, ∀ now,
    (∀ d ∈ calls, d.timestamp ≤ now) → now < c.validBefore →
      s.expiringNonceSeen c.hash = c.validBefore := by
  induction run with
  | start => exact nofun
  | @accept calls accepted s s' call run follows ok ih =>
    obtain ⟨haccepts, rfl⟩ := checkAndMark_ok.mp ok
    intro c hc now hlater hvalid
    rcases List.mem_cons.mp hc with rfl | hc
    · exact accept_seen_self
    · have htime : call.timestamp ≤ now := hlater call List.mem_cons_self
      have hkept := ih c hc call.timestamp (fun d hd => (follows d hd).time) (by omega)
      rw [haccepts.seen_of_live (by omega), hkept]
  | reject run follows failed ih =>
    obtain ⟨rfl, -⟩ := checkAndMark_error failed
    exact fun c hc now hlater hvalid =>
      ih c hc now (fun d hd => hlater d (List.mem_cons_of_mem _ hd)) hvalid

/-- An expiry in the map is that of an accepted call. -/
theorem Run.seen_from (run : Run calls accepted s) : ∀ hash, s.expiringNonceSeen hash ≠ 0 →
    ∃ c ∈ accepted, c.hash = hash ∧ c.validBefore = s.expiringNonceSeen hash := by
  induction run with
  | start => exact fun _ h => absurd rfl h
  | @accept calls accepted s s' call run follows ok ih =>
    obtain ⟨-, rfl⟩ := checkAndMark_ok.mp ok
    intro hash hseen
    by_cases hhash : hash = call.hash
    · subst hhash
      exact ⟨call, List.mem_cons_self, rfl, accept_seen_self.symm⟩
    · have hsame : (s.accept call.spec call.hash call.validBefore).expiringNonceSeen hash =
          s.evicted.expiringNonceSeen hash := update_of_ne hhash _ _
      have hkept : s.evicted.expiringNonceSeen hash = s.expiringNonceSeen hash := by
        rw [hsame] at hseen
        unfold NonceState.evicted at hseen ⊢
        split
        · rfl
        · rename_i hfilled
          rw [if_neg hfilled] at hseen
          refine update_of_ne (fun heq => hseen ?_) _ _
          rw [heq]
          exact update_self _ _ _
      rw [hsame, hkept] at hseen ⊢
      obtain ⟨c, hc, hfrom⟩ := ih hash hseen
      exact ⟨c, List.mem_cons_of_mem _ hc, hfrom⟩
  | reject run follows failed ih =>
    obtain ⟨rfl, -⟩ := checkAndMark_error failed
    exact ih

/-! ## The ring -/

theorem capacity_pos (spec : TempoHardfork) : 0 < expiringNonceSetCapacity spec := by
  unfold expiringNonceSetCapacity
  split <;> decide

theorem capacity_mono {later : TempoHardfork} (h : spec.isT11 = true → later.isT11 = true) :
    expiringNonceSetCapacity spec ≤ expiringNonceSetCapacity later := by
  unfold expiringNonceSetCapacity
  split
  · rename_i hspec
    rw [if_pos (h hspec)]
  · split <;> decide

theorem nextPtr_lt (spec : TempoHardfork) (ptr : ℕ) :
    nextPtr spec ptr < expiringNonceSetCapacity spec := by
  unfold nextPtr
  split
  · exact capacity_pos spec
  · omega

/-- The pointer is below the capacity of every fork from the current one on. -/
theorem Run.ptr_lt (run : Run calls accepted s) : ∀ spec : TempoHardfork,
    (∀ c ∈ calls, c.spec.isT11 = true → spec.isT11 = true) →
      s.expiringNonceRingPtr < expiringNonceSetCapacity spec := by
  induction run with
  | start => exact fun spec _ => capacity_pos spec
  | @accept calls accepted s s' call run follows ok ih =>
    obtain ⟨-, rfl⟩ := checkAndMark_ok.mp ok
    intro spec hspec
    have hmono := capacity_mono (hspec call List.mem_cons_self)
    exact Nat.lt_of_lt_of_le (nextPtr_lt call.spec s.expiringNonceRingPtr) hmono
  | reject run follows failed ih =>
    obtain ⟨rfl, -⟩ := checkAndMark_error failed
    exact fun spec hspec => ih spec fun c hc => hspec c (List.mem_cons_of_mem _ hc)

/-- The ring of one capacity holds the hashes accepted last. -/
structure RingOf (cap : ℕ) (accepted : List Call) (s : NonceState) : Prop where
  ptr : s.expiringNonceRingPtr = accepted.length % cap
  empty : ∀ i, accepted.length ≤ i → s.expiringNonceRing i = 0
  entry : ∀ k c, accepted[k]? = some c → k < cap →
    s.expiringNonceRing ((accepted.length - 1 - k) % cap) = c.hash

theorem nextPtr_mod (n : ℕ) :
    nextPtr spec (n % expiringNonceSetCapacity spec) =
      (n + 1) % expiringNonceSetCapacity spec := by
  have hlt := Nat.mod_lt n (capacity_pos spec)
  rw [← Nat.mod_add_mod]
  unfold nextPtr
  split
  · have hround : n % expiringNonceSetCapacity spec + 1 = expiringNonceSetCapacity spec := by omega
    rw [hround, Nat.mod_self]
  · rename_i hnot
    rw [Nat.mod_eq_of_lt (Nat.lt_of_not_le hnot)]

/-- Two entries less than a round apart have different places. -/
theorem mod_ne_of_lt {n k : ℕ} (hk : k < n) (hcap : k + 1 < cap) : (n - 1 - k) % cap ≠ n % cap := by
  intro heq
  have hle : n - 1 - k ≤ n := by omega
  have hdvd : cap ∣ n - (n - 1 - k) := (Nat.modEq_iff_dvd' hle).mp heq
  have hbound := Nat.le_of_dvd (by omega) hdvd
  omega

theorem accept_ring :
    (s.accept spec hash validBefore).expiringNonceRing =
      update s.expiringNonceRing s.expiringNonceRingPtr hash := by
  unfold NonceState.accept NonceState.evicted
  split <;> rfl

theorem RingOf.accept (h : RingOf (expiringNonceSetCapacity call.spec) accepted s) :
    RingOf (expiringNonceSetCapacity call.spec) (call :: accepted)
      (s.accept call.spec call.hash call.validBefore) := by
  refine ⟨?_, fun i hi => ?_, fun k c hc hcap => ?_⟩
  · show nextPtr call.spec s.expiringNonceRingPtr = _
    rw [h.ptr, nextPtr_mod, List.length_cons]
  · rw [List.length_cons] at hi
    have hptr : s.expiringNonceRingPtr ≤ accepted.length := by
      rw [h.ptr]
      exact Nat.mod_le _ _
    rw [accept_ring, update_of_ne (by omega)]
    exact h.empty i (by omega)
  · rw [accept_ring, h.ptr, List.length_cons]
    cases k with
    | zero =>
      obtain rfl : call = c := Option.some.inj hc
      exact update_self _ _ _
    | succ k =>
      have hk : k < accepted.length :=
        Nat.lt_of_succ_lt_succ (List.getElem?_eq_some_iff.mp hc).1
      have hplace : accepted.length + 1 - 1 - (k + 1) = accepted.length - 1 - k := by omega
      rw [hplace, update_of_ne (mod_ne_of_lt hk hcap)]
      exact h.entry k c hc (by omega)

/-- Within one fork the ring holds the hashes accepted last. -/
theorem Run.ring (run : Run calls accepted s)
    (hfork : ∀ c ∈ calls, expiringNonceSetCapacity c.spec = cap) : RingOf cap accepted s := by
  induction run with
  | start => exact ⟨(Nat.zero_mod cap).symm, fun _ _ => rfl, nofun⟩
  | @accept calls accepted s s' call run follows ok ih =>
    obtain ⟨-, rfl⟩ := checkAndMark_ok.mp ok
    have hring := ih fun c hc => hfork c (List.mem_cons_of_mem _ hc)
    rw [← hfork call List.mem_cons_self] at hring ⊢
    exact hring.accept
  | reject run follows failed ih =>
    obtain ⟨rfl, -⟩ := checkAndMark_error failed
    exact ih fun c hc => hfork c (List.mem_cons_of_mem _ hc)

/-- The pointer is at an entry only after a whole round, and then at the one of a round ago. -/
theorem RingOf.oldest (h : RingOf cap accepted s) (hcap : 0 < cap)
    (hfilled : s.expiringNonceRing s.expiringNonceRingPtr ≠ 0) :
    ∃ oldest, accepted[cap - 1]? = some oldest ∧
      s.expiringNonceRing s.expiringNonceRingPtr = oldest.hash := by
  have hround : cap ≤ accepted.length := by
    by_contra hfew
    have hlt : accepted.length < cap := Nat.lt_of_not_le hfew
    refine hfilled (h.empty _ ?_)
    rw [h.ptr, Nat.mod_eq_of_lt hlt]
  have holdest := List.getElem?_eq_getElem (show cap - 1 < accepted.length by omega)
  refine ⟨_, holdest, ?_⟩
  rw [← h.entry (cap - 1) _ holdest (by omega), h.ptr]
  have hplace : accepted.length - 1 - (cap - 1) = accepted.length - cap := by omega
  rw [hplace, Nat.mod_eq_sub_mod hround]

/-! ## Replay protection -/

/-- The first entries of a list that is ordered by time are no older than the last of them. -/
theorem take_recent {window now : ℕ} {k : ℕ} {oldest : Call}
    (hsorted : accepted.Pairwise fun newer older => older.timestamp ≤ newer.timestamp)
    (hk : accepted[k]? = some oldest) (hrecent : now < oldest.timestamp + window) :
    k + 1 ≤ (accepted.filter fun c => decide (now < c.timestamp + window)).length := by
  induction accepted generalizing k with
  | nil => exact nomatch hk
  | cons newest older ih =>
    have hnewest : now < newest.timestamp + window := by
      cases k with
      | zero =>
        obtain rfl : newest = oldest := Option.some.inj hk
        exact hrecent
      | succ k =>
        have hle := List.rel_of_pairwise_cons hsorted (List.mem_of_getElem? hk)
        omega
    rw [List.filter_cons_of_pos (by simpa using hnewest), List.length_cons]
    cases k with
    | zero => omega
    | succ k => exact Nat.succ_le_succ (ih hsorted.of_cons hk)

/-- Calls with one hash agree on its expiry. -/
def OneExpiry (accepted : List Call) : Prop :=
  ∀ c ∈ accepted, ∀ d ∈ accepted, c.hash = d.hash → c.validBefore = d.validBefore

/-- The calls accepted in the window before a time. -/
def acceptedSince (accepted : List Call) (window now : ℕ) : List Call :=
  accepted.filter fun c => decide (now < c.timestamp + window)

/-- The ring is full only if as many calls as it holds were accepted within the window. -/
theorem Run.full (run : Run calls accepted s)
    (hfork : ∀ c ∈ calls, c.spec.isT11 = call.spec.isT11) (hexpiry : OneExpiry accepted)
    (hfilled : s.expiringNonceRing s.expiringNonceRingPtr ≠ 0)
    (hlive : min call.timestamp u64Max <
      s.expiringNonceSeen (s.expiringNonceRing s.expiringNonceRingPtr)) :
    expiringNonceSetCapacity call.spec ≤
      (acceptedSince accepted (expiringNonceMaxExpirySecs call.spec) call.timestamp).length := by
  have hpos := capacity_pos call.spec
  have hcapacity : ∀ c ∈ calls,
      expiringNonceSetCapacity c.spec = expiringNonceSetCapacity call.spec := by
    intro c hc
    unfold expiringNonceSetCapacity
    rw [hfork c hc]
  obtain ⟨oldest, holdest, hentry⟩ := (run.ring hcapacity).oldest hpos hfilled
  have hmem : oldest ∈ accepted := List.mem_of_getElem? holdest
  obtain ⟨c, hc, hhash, hseen⟩ := run.seen_from _ (Nat.ne_zero_of_lt hlive)
  have hsame := hexpiry c hc oldest hmem (hhash.trans hentry)
  obtain ⟨hwindow, hwidth⟩ := run.window oldest hmem
  have hmax : expiringNonceMaxExpirySecs oldest.spec = expiringNonceMaxExpirySecs call.spec := by
    unfold expiringNonceMaxExpirySecs
    rw [hfork oldest (run.accepted_mem oldest hmem)]
  have hrecent : call.timestamp < oldest.timestamp + expiringNonceMaxExpirySecs call.spec := by
    omega
  have hcount := take_recent run.sorted holdest hrecent
  unfold acceptedSince
  omega

/-- After any run: the pointer is below the capacity of the fork of the next call; the hash of a
call that was accepted is not accepted again while it is valid; a rejected call changes nothing;
and if every hash has one expiry, then within one fork the ring is full only if as many calls as
it holds were accepted within the window. -/
theorem expiring_nonces_protected (run : Run calls accepted s)
    (hfollows : ∀ c ∈ calls, Follows c call) :
    s.expiringNonceRingPtr < expiringNonceSetCapacity call.spec ∧
    (∀ c ∈ accepted, c.hash = call.hash → call.timestamp < c.validBefore →
      ∀ s', call.run s ≠ .ok () s') ∧
    (∀ e s', call.run s = .error e s' → s' = s) ∧
    ((∀ c ∈ calls, c.spec.isT11 = call.spec.isT11) → OneExpiry accepted →
      ∀ s', call.run s = .error .expiringNonceSetFull s' →
        expiringNonceSetCapacity call.spec ≤
          (acceptedSince accepted (expiringNonceMaxExpirySecs call.spec)
            call.timestamp).length) := by
  refine ⟨?_, ?_, ?_, ?_⟩
  · exact run.ptr_lt call.spec fun c hc => (hfollows c hc).fork
  · intro c hc hhash hvalid s' hok
    have hseen := run.seen c hc call.timestamp (fun d hd => (hfollows d hd).time) hvalid
    have hunseen := (checkAndMark_ok.mp hok).1.unseen
    rw [← hhash, hseen] at hunseen
    omega
  · exact fun e s' hfailed => (checkAndMark_error hfailed).1
  · intro hfork hexpiry s' hfailed
    obtain ⟨hfilled, hlive⟩ := (checkAndMark_error hfailed).2 rfl
    exact run.full hfork hexpiry hfilled hlive

/-! ## A full ring -/

/-- Calls with the hashes from 1 to `n`, newest first. -/
def fillers (timestamp validBefore : ℕ) : ℕ → List Call
  | 0 => []
  | n + 1 => ⟨.T5, timestamp, n + 1, validBefore⟩ :: fillers timestamp validBefore n

/-- The state after these calls. -/
def filled (validBefore n : ℕ) : NonceState where
  expiringNonceSeen hash := if 1 ≤ hash ∧ hash ≤ n then validBefore else 0
  expiringNonceRing i := if i < n then i + 1 else 0
  expiringNonceRingPtr := if n < 300000 then n else 0

variable {timestamp validBefore n : ℕ}

theorem mem_fillers {c : Call} (hc : c ∈ fillers timestamp validBefore n) :
    c.spec = .T5 ∧ c.timestamp = timestamp ∧ c.validBefore = validBefore := by
  induction n with
  | zero => exact nomatch hc
  | succ n ih =>
    rcases List.mem_cons.mp hc with rfl | hc
    · exact ⟨rfl, rfl, rfl⟩
    · exact ih hc

theorem accept_filled (hn : n < 300000) :
    (filled validBefore n).accept .T5 (n + 1) validBefore = filled validBefore (n + 1) := by
  have hptr : (filled validBefore n).expiringNonceRingPtr = n := if_pos hn
  have hempty : (filled validBefore n).expiringNonceRing n = 0 := if_neg (Nat.lt_irrefl n)
  have hevicted : (filled validBefore n).evicted = filled validBefore n := by
    unfold NonceState.evicted
    rw [hptr, if_pos hempty]
  have hseen : update (filled validBefore n).expiringNonceSeen (n + 1) validBefore =
      (filled validBefore (n + 1)).expiringNonceSeen := by
    funext hash
    by_cases hhash : hash = n + 1
    · subst hhash
      simp [filled]
    · have hiff : hash ≤ n + 1 ↔ hash ≤ n :=
        ⟨fun h => Nat.le_of_lt_succ (Nat.lt_of_le_of_ne h hhash), Nat.le_succ_of_le⟩
      simp [filled, hhash, hiff]
  have hring : update (filled validBefore n).expiringNonceRing n (n + 1) =
      (filled validBefore (n + 1)).expiringNonceRing := by
    funext i
    by_cases hi : i = n
    · subst hi
      simp [filled]
    · have hiff : i < n + 1 ↔ i < n := by omega
      rw [update_of_ne hi]
      show (if i < n then i + 1 else 0) = if i < n + 1 then i + 1 else 0
      simp only [hiff]
  have hnext : nextPtr .T5 n = (filled validBefore (n + 1)).expiringNonceRingPtr := by
    have hcapacity : expiringNonceSetCapacity .T5 = 300000 := rfl
    simp only [nextPtr, filled, hcapacity]
    split <;> split <;> omega
  unfold NonceState.accept
  rw [hevicted, hptr]
  simp only [NonceState.setRing, NonceState.setSeen, NonceState.setRingPtr, hseen, hring, hnext]

theorem accepts_filler (hlater : timestamp < validBefore)
    (hwindow : validBefore ≤ timestamp + 30) (hwidth : validBefore ≤ u64Max) (hn : n < 300000) :
    Accepts .T5 (min timestamp u64Max) (n + 1) validBefore (filled validBefore n) := by
  have hsecs : expiringNonceMaxExpirySecs .T5 = 30 := rfl
  have hunseen : (filled validBefore n).expiringNonceSeen (n + 1) = 0 := by
    simp [filled]
  have hempty : (filled validBefore n).expiringNonceRing
      (filled validBefore n).expiringNonceRingPtr = 0 := by
    simp [filled, hn]
  refine ⟨by omega, by omega, by omega, fun hfilled => absurd hempty hfilled⟩

theorem run_fillers (hlater : timestamp < validBefore)
    (hwindow : validBefore ≤ timestamp + 30) (hwidth : validBefore ≤ u64Max) (hn : n ≤ 300000) :
    Run (fillers timestamp validBefore n) (fillers timestamp validBefore n)
      (filled validBefore n) := by
  induction n with
  | zero =>
    have hfresh : filled validBefore 0 = .fresh := by
      unfold filled NonceState.fresh
      congr 1
      funext hash
      exact if_neg fun h => Nat.not_succ_le_zero 0 (Nat.le_trans h.1 h.2)
    rw [hfresh]
    exact .start
  | succ n ih =>
    refine .accept (ih (by omega)) (fun c hc => ?_) (checkAndMark_ok.mpr
      ⟨accepts_filler hlater hwindow hwidth (by omega), (accept_filled (by omega)).symm⟩)
    obtain ⟨hspec, htime, -⟩ := mem_fillers hc
    exact ⟨Nat.le_of_eq htime, by rw [hspec]; exact id⟩

/-- A ring filled within one second is full for the next call, and all of its 300000 hashes were
accepted within the window. -/
theorem expiring_nonces_protected_full : ∃ s,
    Run (fillers 1 31 300000) (fillers 1 31 300000) s ∧
      checkAndMarkExpiringNonce .T5 1 400000 31 s = .error .expiringNonceSetFull s ∧
      300000 ≤ (acceptedSince (fillers 1 31 300000) 30 1).length := by
  let call : Call := ⟨.T5, 1, 400000, 31⟩
  have hrun : Run (fillers 1 31 300000) (fillers 1 31 300000) (filled 31 300000) :=
    run_fillers (by decide) (by decide) (by decide) (by decide)
  have hfailed : call.run (filled 31 300000) = .error .expiringNonceSetFull (filled 31 300000) :=
    checkAndMark_full (by decide) (by decide) (by decide) (by decide) (by decide)
  refine ⟨filled 31 300000, hrun, hfailed, ?_⟩
  have hfollows : ∀ c ∈ fillers 1 31 300000, Follows c call := by
    intro c hc
    obtain ⟨hspec, htime, -⟩ := mem_fillers hc
    exact ⟨Nat.le_of_eq htime, by rw [hspec]; exact id⟩
  have hprotected := expiring_nonces_protected hrun hfollows
  refine hprotected.2.2.2 ?_ ?_ (filled 31 300000) hfailed
  · exact fun c hc => by rw [(mem_fillers hc).1]
  · exact fun c hc d hd _ => (mem_fillers hc).2.2.trans (mem_fillers hd).2.2.symm

/-- A hash with two expiries can be in the ring twice: the ring is full although only one call
was accepted within the window. -/
theorem ring_full_of_two_expiries : ∃ (calls accepted : List Call) (s : NonceState) (call : Call),
    Run calls accepted s ∧ (∀ c ∈ calls, Follows c call ∧ c.spec = call.spec) ∧
      call.run s = .error .expiringNonceSetFull s ∧
      (acceptedSince accepted (expiringNonceMaxExpirySecs call.spec) call.timestamp).length <
        expiringNonceSetCapacity call.spec := by
  let again : Call := ⟨.T5, 100, 1, 130⟩
  let call : Call := ⟨.T5, 100, 400000, 130⟩
  have hrun : Run (fillers 1 2 299999) (fillers 1 2 299999) (filled 2 299999) :=
    run_fillers (by decide) (by decide) (by decide) (by decide)
  have haccepts : Accepts .T5 (min 100 u64Max) 1 130 (filled 2 299999) :=
    ⟨by decide, by decide, by decide, fun hfilled => absurd rfl hfilled⟩
  have hspec : ∀ c ∈ fillers 1 2 299999, Follows c again := by
    intro c hc
    obtain ⟨hspec, htime, -⟩ := mem_fillers hc
    exact ⟨by rw [htime]; decide, by rw [hspec]; exact id⟩
  refine ⟨_, _, _, call, .accept hrun hspec (checkAndMark_ok.mpr ⟨haccepts, rfl⟩), ?_, ?_, ?_⟩
  · intro c hc
    rcases List.mem_cons.mp hc with rfl | hc
    · exact ⟨⟨le_refl _, id⟩, rfl⟩
    · exact ⟨⟨(hspec c hc).time, (hspec c hc).fork⟩, (mem_fillers hc).1⟩
  · exact checkAndMark_full (by decide) (by decide) (by decide) (by decide) (by decide)
  · have hold : acceptedSince (fillers 1 2 299999) 30 100 = [] := by
      refine List.filter_eq_nil_iff.mpr fun c hc => ?_
      rw [(mem_fillers hc).2.1]
      decide
    have hone : acceptedSince (again :: fillers 1 2 299999) 30 100 = [again] := by
      unfold acceptedSince
      rw [List.filter_cons_of_pos (by decide)]
      exact congrArg (again :: ·) hold
    show (acceptedSince (again :: fillers 1 2 299999) 30 100).length < 300000
    rw [hone]
    decide

end Monotempo.Nonce
