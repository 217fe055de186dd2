/-
  Best ticks and price-time priority.

  The cached best tick of a side is kept exact by the bitmap search.  Listing the
  ticks best first and each queue from head to tail gives the priority sequence of
  the side; the head of the queue at the best tick is its first order.
-/
import Monotempo.Dex.Side

set_option autoImplicit false

namespace Monotempo.Dex

open Chain Foundation TickBitmap Function

/-! ## The best tick -/

variable {tick : ℤ}

namespace BestOk

variable {isBid : Bool} {best : ℤ} {queues : Queues}

theorem nil_of_better (h : BestOk isBid best queues) (hbetter : better isBid tick best) :
    queues tick = [] := by
  rcases h with ⟨hall, _⟩ | ⟨_, hworse⟩
  · exact hall tick
  · by_contra hne
    rcases hworse tick hne with rfl | hbest
    · exact better_irrefl isBid tick hbetter
    · exact better_irrefl isBid tick (better_trans hbetter hbest)

/-- Every tick in range is better than the marker for no orders. -/
theorem better_noTick (hrange : minTick ≤ tick ∧ tick ≤ maxTick) :
    better isBid tick (noTick isBid) := by
  unfold better noTick i16Min i16Max minTick maxTick at *
  cases isBid <;> simp <;> omega

theorem ne_nil (h : BestOk isBid best queues) (hbest : best ≠ noTick isBid) :
    queues best ≠ [] := by
  rcases h with ⟨_, hnone⟩ | ⟨hne, _⟩
  · exact absurd hnone hbest
  · exact hne

theorem nil_of_noTick (h : BestOk isBid (noTick isBid) queues)
    (hrange : ∀ t, queues t ≠ [] → minTick ≤ t ∧ t ≤ maxTick) (tick : ℤ) :
    queues tick = [] := by
  rcases h with ⟨hall, _⟩ | ⟨hne, _⟩
  · exact hall tick
  · exact absurd (better_noTick (hrange _ hne)) (better_irrefl isBid _)

/-- Appending at a tick: it becomes the best one if it was empty and is better. -/
theorem append (h : BestOk isBid best queues) (id : ℕ) (hrange : minTick ≤ tick ∧ tick ≤ maxTick) :
    BestOk isBid (if queues tick = [] ∧ better isBid tick best then tick else best)
      (update queues tick (queues tick ++ [id])) := by
  have hne : ∀ t, update queues tick (queues tick ++ [id]) t ≠ [] →
      t = tick ∨ queues t ≠ [] := by
    intro t ht
    by_cases hsame : t = tick
    · exact Or.inl hsame
    · rw [update_of_ne hsame] at ht
      exact Or.inr ht
  refine Or.inr ?_
  split
  · rename_i hnew
    refine ⟨by simp, ?_⟩
    intro t ht
    rcases hne t ht with hsame | hold
    · exact Or.inl hsame
    · rcases h with ⟨hall, _⟩ | ⟨_, hworse⟩
      · exact absurd (hall t) hold
      · rcases hworse t hold with rfl | hbest
        · exact Or.inr hnew.2
        · exact Or.inr (better_trans hnew.2 hbest)
  · rename_i hold
    rcases h with ⟨hall, hnone⟩ | ⟨hbest, hworse⟩
    · refine absurd ⟨hall tick, ?_⟩ hold
      rw [hnone]
      exact better_noTick hrange
    · refine ⟨?_, ?_⟩
      · by_cases hsame : best = tick
        · subst hsame
          simp
        · rw [update_of_ne hsame]
          exact hbest
      · intro t ht
        rcases hne t ht with rfl | hqueue
        · by_cases hempty : queues t = []
          · have hnot : ¬ better isBid t best := fun hb => hold ⟨hempty, hb⟩
            rcases better_trichotomy isBid t best with hb | heq | hb
            · exact absurd hb hnot
            · exact Or.inl heq
            · exact Or.inr hb
          · exact hworse t hempty
        · exact hworse t hqueue

/-- Shortening a queue that stays non-empty does not move the best tick. -/
theorem shorten (h : BestOk isBid best queues) {queue : List ℕ} (hold : queues tick ≠ [])
    (hnew : queue ≠ []) :
    BestOk isBid best (update queues tick queue) := by
  rcases h with ⟨hall, _⟩ | ⟨hbest, hworse⟩
  · exact absurd (hall tick) hold
  · refine Or.inr ⟨?_, ?_⟩
    · by_cases hsame : best = tick
      · subst hsame
        rwa [update_self]
      · rwa [update_of_ne hsame]
    · intro t ht
      by_cases hsame : t = tick
      · subst hsame
        exact hworse t hold
      · rw [update_of_ne hsame] at ht
        exact hworse t ht

/-- Emptying a queue that is not at the best tick does not move the best tick. -/
theorem empty_other (h : BestOk isBid best queues) (hold : queues tick ≠ []) (hother : best ≠ tick)
    : BestOk isBid best (update queues tick []) := by
  rcases h with ⟨hall, _⟩ | ⟨hbest, hworse⟩
  · exact absurd (hall tick) hold
  · refine Or.inr ⟨?_, ?_⟩
    · rwa [update_of_ne hother]
    · intro t ht
      by_cases hsame : t = tick
      · subst hsame
        exact absurd (update_self t [] queues) ht
      · rw [update_of_ne hsame] at ht
        exact hworse t ht

/-- Emptying the queue at the best tick: the search finds the next best one. -/
theorem empty_best (h : BestOk isBid best queues) (hold : queues best ≠ [])
    {bitmap : TickBitmap}
    (hbits : ∀ t, isTickInitialized bitmap t = true ↔
      update queues best [] t ≠ [])
    (hrange : ∀ t, queues t ≠ [] → minTick ≤ t ∧ t ≤ maxTick) :
    BestOk isBid
      (if (TickBitmap.nextInitializedTick bitmap best isBid).2 then
        (TickBitmap.nextInitializedTick bitmap best isBid).1 else noTick isBid)
      (update queues best []) := by
  have hworse : ∀ t, update queues best [] t ≠ [] → better isBid best t := by
    intro t ht
    have hsame : t ≠ best := by
      rintro rfl
      exact ht (update_self t [] queues)
    rw [update_of_ne hsame] at ht
    rcases h with ⟨hall, _⟩ | ⟨_, hall⟩
    · exact absurd (hall best) hold
    · exact (hall t ht).resolve_left hsame
  rcases hsearch : TickBitmap.nextInitializedTick bitmap best isBid with ⟨next, has⟩
  cases has with
  | true =>
    obtain ⟨_, hset, hclear⟩ := nextInitializedTick_some hsearch
    refine Or.inr ⟨(hbits next).mp hset, ?_⟩
    intro t ht
    rcases better_trichotomy isBid next t with hb | heq | hb
    · exact Or.inr hb
    · exact Or.inl heq.symm
    · have hunset := hclear t (hworse t ht) hb
      rw [(hbits t).mpr ht] at hunset
      exact absurd hunset (by decide)
  | false =>
    have hclear := nextInitializedTick_none hsearch
    refine Or.inl ⟨?_, rfl⟩
    intro t
    by_contra ht
    have hin : minTick ≤ t ∧ t ≤ maxTick := by
      refine hrange t fun hnil => ht ?_
      by_cases hsame : t = best
      · subst hsame
        exact update_self t [] queues
      · rw [update_of_ne hsame, hnil]
    have hunset := hclear t hin.1 hin.2 (hworse t ht)
    rw [(hbits t).mpr ht] at hunset
    exact absurd hunset (by decide)

end BestOk

/-! ## The priority sequence -/

/-- The number of ticks from `MIN_TICK` to `MAX_TICK`. -/
def validTicks : ℕ := 4001

/-- All valid ticks of a side, best first: bids descending, asks ascending. -/
def bestFirst (isBid : Bool) : List ℤ :=
  (List.range validTicks).map fun (i : ℕ) => if isBid then maxTick - i else minTick + i

/-- The orders of a side in price-time priority. -/
def priority (isBid : Bool) (queues : Queues) : List ℕ := (bestFirst isBid).flatMap queues

variable {isBid : Bool}

theorem mem_bestFirst :
    tick ∈ bestFirst isBid ↔ minTick ≤ tick ∧ tick ≤ maxTick := by
  unfold bestFirst minTick maxTick
  rw [List.mem_map]
  constructor
  · rintro ⟨i, hi, rfl⟩
    have hlt := List.mem_range.mp hi
    unfold validTicks at hlt
    cases isBid <;> simp <;> omega
  · rintro ⟨hlow, hhigh⟩
    cases isBid with
    | true =>
      refine ⟨(2000 - tick).toNat, List.mem_range.mpr (by unfold validTicks; omega), ?_⟩
      simp only [if_true]
      omega
    | false =>
      refine ⟨(tick + 2000).toNat, List.mem_range.mpr (by unfold validTicks; omega), ?_⟩
      simp only [Bool.false_eq_true, if_false]
      omega

theorem pairwise_bestFirst (isBid : Bool) : (bestFirst isBid).Pairwise (better isBid) := by
  unfold bestFirst
  rw [List.pairwise_map]
  refine List.Pairwise.imp ?_ List.pairwise_lt_range
  unfold better
  cases isBid with
  | true => simp only [if_true]; omega
  | false => simp only [Bool.false_eq_true, if_false]; omega

/-- The valid ticks around one of them: the better ones before, the worse after. -/
theorem bestFirst_split (isBid : Bool) (hrange : minTick ≤ tick ∧ tick ≤ maxTick) :
    ∃ before after, bestFirst isBid = before ++ tick :: after ∧
      (∀ t ∈ before, better isBid t tick) ∧ ∀ t ∈ after, better isBid tick t := by
  obtain ⟨before, after, hsplit⟩ := List.append_of_mem (mem_bestFirst.mpr hrange)
  have hpairwise := pairwise_bestFirst isBid
  rw [hsplit, List.pairwise_append, List.pairwise_cons] at hpairwise
  refine ⟨before, after, hsplit, ?_, hpairwise.2.1.1⟩
  exact fun t ht => hpairwise.2.2 t ht tick List.mem_cons_self

variable {queues : Queues}

/-- The queue at the best tick comes first in the priority sequence. -/
theorem priority_eq (hrange : minTick ≤ tick ∧ tick ≤ maxTick)
    (hbetter : ∀ t, better isBid t tick → queues t = []) :
    ∃ rest : List ℕ, ∀ queue, priority isBid (update queues tick queue) =
      queue ++ rest := by
  obtain ⟨before, after, hsplit, hbefore, hafter⟩ := bestFirst_split isBid hrange
  refine ⟨after.flatMap queues, fun queue => ?_⟩
  unfold priority
  rw [hsplit, List.flatMap_append, List.flatMap_cons, update_self]
  have hnone : before.flatMap (update queues tick queue) = [] := by
    rw [List.flatMap_eq_nil_iff]
    intro t ht
    have hne : t ≠ tick := by
      rintro rfl
      exact better_irrefl isBid t (hbefore t ht)
    rw [update_of_ne hne]
    exact hbetter t (hbefore t ht)
  have hrest : after.flatMap (update queues tick queue) = after.flatMap queues := by
    refine List.flatMap_congr fun t ht => ?_
    have hne : t ≠ tick := by
      rintro rfl
      exact better_irrefl isBid t (hafter t ht)
    rw [update_of_ne hne]
  rw [hnone, hrest, List.nil_append]

/-- Taking the first order off the best queue takes the first order off the
priority sequence. -/
theorem priority_pop {id : ℕ} {rest : List ℕ} (hrange : minTick ≤ tick ∧ tick ≤ maxTick)
    (hbetter : ∀ t, better isBid t tick → queues t = []) (hqueue : queues tick = id :: rest) :
    priority isBid queues = id :: priority isBid (update queues tick rest) := by
  obtain ⟨later, hpriority⟩ := priority_eq hrange hbetter
  rw [hpriority rest, ← List.cons_append, ← hqueue, ← hpriority (queues tick),
    update_eq_self]

theorem priority_eq_nil (h : ∀ tick, queues tick = []) :
    priority isBid queues = [] := by
  unfold priority
  rw [List.flatMap_eq_nil_iff]
  exact fun tick _ => h tick

theorem mem_priority {id : ℕ} (hrange : ∀ t, queues t ≠ [] → minTick ≤ t ∧ t ≤ maxTick) :
    id ∈ priority isBid queues ↔ ∃ tick, id ∈ queues tick := by
  unfold priority
  rw [List.mem_flatMap]
  constructor
  · rintro ⟨tick, _, hmem⟩
    exact ⟨tick, hmem⟩
  · rintro ⟨tick, hmem⟩
    exact ⟨tick, mem_bestFirst.mpr (hrange tick (List.ne_nil_of_mem hmem)), hmem⟩

/-- No order appears twice in the priority sequence. -/
theorem SideOk.nodup_priority {v : SideView} {bookKey : B256} (h : SideOk v bookKey isBid queues) :
    (priority isBid queues).Nodup := by
  unfold priority
  rw [List.nodup_flatMap]
  refine ⟨fun tick _ => h.nodup tick, (pairwise_bestFirst isBid).imp fun hbetter => ?_⟩
  intro id hleft hright
  rw [h.tick_unique hleft hright] at hbetter
  exact better_irrefl isBid _ hbetter

end Monotempo.Dex
