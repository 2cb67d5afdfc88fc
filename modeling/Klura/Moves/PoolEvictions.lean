import Klura.Pool.Ledger

/-! Evictions: idle slots leave the pool, and what is in use stays. -/

namespace Klura

namespace Pool

variable {config : PoolOptions} {pool before after : Pool} {ledger : Ledger}

/-- An idle slot is evicted. -/
def Evicts (before after : Pool) : Prop :=
  ∃ entry ∈ before.warm, (before.entries entry.2).inUse = false ∧
    after = before.evict entry.1 entry.2

theorem evict_frame (pool : Pool) (key : WarmKey) (slot : SlotId) :
    ∃ handed, pool.evict key slot =
      { pool with warm := OrderedMap.delete pool.warm key, handed } := by
  unfold evict
  cases (pool.entries slot).lease with
  | none => exact ⟨pool.handed, rfl⟩
  | some context => exact ⟨_, rfl⟩

theorem evictions_frame (evictions : Relation.ReflTransGen Evicts before after) :
    ∃ warm handed, after = { before with warm, handed } ∧
      ∀ key, OrderedMap.get? before.warm key = none → OrderedMap.get? warm key = none := by
  induction evictions with
  | refl => exact ⟨before.warm, before.handed, rfl, fun _ absent => absent⟩
  | @tail middle after _ last ih =>
    obtain ⟨warm, handed, same, absent⟩ := ih
    obtain ⟨entry, -, -, evicted⟩ := last
    obtain ⟨handed', frame⟩ := evict_frame middle entry.1 entry.2
    subst same
    refine ⟨_, handed', evicted.trans frame, fun key none_ => ?_⟩
    rw [OrderedMap.get?_eq_none_iff, OrderedMap.keys_delete]
    exact fun member => OrderedMap.get?_eq_none_iff.mp (absent key none_) (List.mem_of_mem_erase member)

theorem Sound.evictions (evictions : Relation.ReflTransGen Evicts before after)
    (sound : before.Sound config ledger) :
    ∃ place, after.Sound config { ledger with place } := by
  induction evictions with
  | refl => exact ⟨ledger.place, sound⟩
  | tail _ last ih =>
    obtain ⟨place, sound⟩ := ih
    obtain ⟨entry, member, unused, rfl⟩ := last
    obtain ⟨place, evicted⟩ := sound.evict (OrderedMap.get?_of_mem sound.distinct member) unused
    exact ⟨place, evicted⟩

theorem evictions_distinct (evictions : Relation.ReflTransGen Evicts before after)
    (distinct : before.warm.keys.Nodup) : after.warm.keys.Nodup := by
  induction evictions with
  | refl => exact distinct
  | @tail middle after _ last ih =>
    obtain ⟨entry, -, -, rfl⟩ := last
    obtain ⟨handed, frame⟩ := evict_frame middle entry.1 entry.2
    rw [frame]
    exact OrderedMap.keys_delete_nodup ih entry.1

theorem evictions_stay (evictions : Relation.ReflTransGen Evicts before after)
    (distinct : before.warm.keys.Nodup) {key : WarmKey} {slot : SlotId}
    (there : OrderedMap.get? before.warm key = some slot)
    (inUse : (before.entries slot).inUse = true) : OrderedMap.get? after.warm key = some slot := by
  induction evictions with
  | refl => exact there
  | @tail middle after earlier last ih =>
    obtain ⟨warm, handed, same, -⟩ := evictions_frame earlier
    obtain ⟨entry, member, unused, rfl⟩ := last
    obtain ⟨handed', frame⟩ := evict_frame middle entry.1 entry.2
    have found := OrderedMap.get?_of_mem (evictions_distinct earlier distinct) member
    have differs : key ≠ entry.1 := by
      rintro rfl
      rw [ih] at found
      cases found
      rw [same, inUse] at unused
      nomatch unused
    rw [frame]
    dsimp only
    rw [OrderedMap.get?_delete_of_ne _ differs, ih]

/-- The slot that has been idle for longest is an idle slot. -/
theorem oldestIdle_idle {entry : WarmKey × SlotId} (oldest : pool.oldestIdle = some entry) :
    entry ∈ pool.warm ∧ (pool.entries entry.2).inUse = false := by
  -- The search keeps an idle slot of those that it has passed.
  have search : ∀ found ∈ pool.oldestIdle,
      found ∈ pool.warm ∧ (pool.entries found.2).inUse = false := by
    unfold oldestIdle
    refine List.foldlRecOn (motive := fun oldest : Option (WarmKey × SlotId) => ∀ found ∈ oldest,
      found ∈ pool.warm ∧ (pool.entries found.2).inUse = false) pool.warm _ (by rintro _ ⟨⟩) ?_
    intro oldest holds first inside
    have own : (pool.entries first.2).inUse = false → ∀ found ∈ some first,
        found ∈ pool.warm ∧ (pool.entries found.2).inUse = false := by
      intro idle found same
      cases same
      exact ⟨inside, idle⟩
    split
    · exact holds
    · rename_i idle
      have idle := own (Bool.eq_false_iff.mpr idle)
      split
      · exact idle
      · split
        · exact idle
        · exact holds
  exact search entry oldest

theorem evictLoop_evicts (config : PoolOptions) (rounds : Nat) (pool : Pool) :
    Relation.ReflTransGen Evicts pool (evictLoop config rounds pool) := by
  induction rounds generalizing pool with
  | zero => exact .refl
  | succ rounds ih =>
    rw [evictLoop]
    split
    · exact .refl
    · cases oldest : pool.oldestIdle with
      | none => exact .refl
      | some entry =>
        obtain ⟨member, unused⟩ := oldestIdle_idle oldest
        exact .head ⟨entry, member, unused, rfl⟩ (ih _)

theorem evictIfNeeded_evicts (config : PoolOptions) (pool : Pool) :
    Relation.ReflTransGen Evicts pool (evictIfNeeded config pool) := by
  unfold evictIfNeeded
  split
  · exact .refl
  · exact evictLoop_evicts config _ pool

/-- The sweep consists of evictions. -/
theorem sweep_evicts (config : PoolOptions) (now : Nat) (distinct : pool.warm.keys.Nodup) :
    Relation.ReflTransGen Evicts pool (pool.sweep config now) := by
  unfold sweep
  split
  · exact .refl
  -- The slots that the sweep has yet to look at are still there.
  have sweeps : ∀ (rest : List (WarmKey × SlotId)) (pool : Pool), pool.warm.keys.Nodup →
      (rest.map Prod.fst).Nodup → (∀ entry ∈ rest, entry ∈ pool.warm) →
      Relation.ReflTransGen Evicts pool (rest.foldl (fun pool entry =>
        if (pool.entries entry.2).inUse then pool
        else if config.warmTtlMs < now - (pool.entries entry.2).lastUsedAt then
          pool.evict entry.1 entry.2
        else pool) pool) := by
    intro rest
    induction rest with
    | nil => exact fun _ _ _ _ => .refl
    | cons entry rest ih =>
      intro pool distinct keys there
      rw [List.map_cons, List.nodup_cons] at keys
      rw [List.foldl_cons]
      have later := fun other member => there other (List.mem_cons_of_mem _ member)
      split
      · exact ih pool distinct keys.2 later
      · rename_i unused
        split
        · obtain ⟨handed, frame⟩ := evict_frame pool entry.1 entry.2
          refine .head ⟨entry, there entry List.mem_cons_self, Bool.eq_false_iff.mpr unused, rfl⟩ ?_
          rw [frame]
          refine ih _ (OrderedMap.keys_delete_nodup distinct _) keys.2 fun other member => ?_
          have differs : other.1 ≠ entry.1 := fun same =>
            keys.1 (same ▸ List.mem_map_of_mem member)
          have found := OrderedMap.get?_of_mem distinct (later other member)
          refine OrderedMap.mem_of_get? ?_
          dsimp only
          rw [OrderedMap.get?_delete_of_ne _ differs]
          exact found
        · exact ih pool distinct keys.2 later
  exact sweeps pool.warm pool distinct distinct fun _ member => member

theorem evict_length {entry : WarmKey × SlotId} (member : entry ∈ pool.warm) :
    (pool.evict entry.1 entry.2).warm.length + 1 = pool.warm.length := by
  obtain ⟨handed, frame⟩ := evict_frame pool entry.1 entry.2
  have inside : entry.1 ∈ pool.warm.keys := List.mem_map_of_mem member
  have shorter : (OrderedMap.delete pool.warm entry.1).keys.length =
      pool.warm.keys.length - 1 := by
    rw [OrderedMap.keys_delete, List.length_erase_of_mem inside]
  have some_ := List.length_pos_of_mem member
  simp only [OrderedMap.keys, List.length_map] at shorter
  rw [frame]
  dsimp only
  omega

theorem evictions_length (evictions : Relation.ReflTransGen Evicts before after) :
    after.warm.length ≤ before.warm.length := by
  induction evictions with
  | refl => exact Nat.le_refl _
  | tail _ last ih =>
    obtain ⟨entry, member, -, rfl⟩ := last
    have shorter := evict_length member
    omega

theorem evictIfNeeded_room (limited : config.warmMax ≠ 0)
    (bounded : pool.warm.length ≤ config.warmMax)
    (roomy : pool.warm.length < config.warmMax ∨ pool.oldestIdle.isSome = true) :
    (evictIfNeeded config pool).warm.length < config.warmMax := by
  rw [evictIfNeeded, if_neg limited, evictLoop]
  by_cases room : pool.warm.length < config.warmMax
  · rw [if_pos room]
    exact room
  · rw [if_neg room]
    obtain ⟨entry, oldest⟩ := Option.isSome_iff_exists.mp (roomy.resolve_left room)
    rw [oldest]
    dsimp only
    -- The first round makes the room.
    have shorter := evict_length (oldestIdle_idle oldest).1
    have fewer := evictions_length (evictLoop_evicts config pool.warm.length
      (pool.evict entry.1 entry.2))
    omega

end Pool

end Klura
