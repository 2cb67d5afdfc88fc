import Klura.Moves.PoolCalls

/-! What the calls of the pool do to its slots: who drops one, and when there is room for another. -/

namespace Klura

namespace Pool

variable {config : PoolOptions} {pool : Pool} {ledger : Ledger}

/-- Whether an event is the work of a slot's user: the call that has claimed the slot, or the end of
the session that it is on record for. -/
def Uses (pool : Pool) (slot : SlotId) : Event → Prop
  | .resume call _ _ => work Call.slot pool.calls call = some slot
  | .endDrive _ session _ => (pool.entries slot).sessionId = some session
  | _ => False

/-- Whether a session that the driver creates with the options gets a slot. -/
def GetsSlot (config : PoolOptions) (pool : Pool) (opts : SessionOptions) : Prop :=
  opts.freshContext = false ∧ config.warmEnabled = true ∧
    ∃ key, opts.key = some key ∧ OrderedMap.get? pool.warm key = none

/-- Whether there is room, where the number of slots is limited, for one that an event adds: fewer
slots than allowed, or an idle one to evict. -/
def Roomy (config : PoolOptions) (pool : Pool) : Event → Prop
  | .resume call true _ =>
    match pool.calls call with
    | some (.creating opts) => pool.GetsSlot config opts → config.warmMax ≠ 0 →
      pool.warm.length < config.warmMax ∨ pool.oldestIdle.isSome = true
    | _ => True
  | _ => True

/-- What an event makes of the slots: it leaves them, it drops one that is idle or in use by its own
user, it evicts idle ones, or it adds one for which it has made room. -/
inductive Slots (config : PoolOptions) (before after : Pool) (event : Event) : Prop where
  | same (warm : after.warm = before.warm)
  | dropped (key : WarmKey) (slot : SlotId) (there : OrderedMap.get? before.warm key = some slot)
    (mine : (before.entries slot).inUse = false ∨ before.Uses slot event)
    (warm : after.warm = OrderedMap.delete before.warm key)
  | evicted (evictions : Relation.ReflTransGen Evicts before after)
  | added (registered : Pool) (key : WarmKey) (slot : SlotId)
    (room : before.Roomy config event → config.warmMax ≠ 0 →
      before.warm.length < config.warmMax ∨ before.oldestIdle.isSome = true)
    (warm : registered.warm = before.warm) (entries : registered.entries = before.entries)
    (free : OrderedMap.get? before.warm key = none)
    (set : after.warm = OrderedMap.set (evictIfNeeded config registered).warm key slot)

theorem Slots.stays {after : Pool} {event : Event} (slots : Slots config pool after event)
    (distinct : pool.warm.keys.Nodup) {key : WarmKey} {slot : SlotId}
    (there : OrderedMap.get? pool.warm key = some slot)
    (inUse : (pool.entries slot).inUse = true) (foreign : ¬pool.Uses slot event) :
    OrderedMap.get? after.warm key = some slot := by
  cases slots with
  | same warm => rw [warm, there]
  | dropped other slot' found mine warm =>
    have differs : key ≠ other := by
      rintro rfl
      rw [there] at found
      cases found
      rcases mine with idle | uses
      · rw [inUse] at idle
        nomatch idle
      · exact foreign uses
    rw [warm, OrderedMap.get?_delete_of_ne _ differs, there]
  | evicted evictions => exact evictions_stay evictions distinct there inUse
  | added registered other slot' room warm entries free set =>
    have differs : key ≠ other := by
      rintro rfl
      rw [there] at free
      nomatch free
    rw [set, OrderedMap.get?_set_of_ne _ _ differs]
    refine evictions_stay (evictIfNeeded_evicts config registered) ?_ ?_ ?_
    · rw [warm]
      exact distinct
    · rw [warm, there]
    · rw [entries, inUse]

theorem Slots.bounded {after : Pool} {event : Event} (slots : Slots config pool after event)
    (roomy : pool.Roomy config event) (limited : config.warmMax ≠ 0)
    (bounded : pool.warm.length ≤ config.warmMax) : after.warm.length ≤ config.warmMax := by
  cases slots with
  | same warm => rwa [warm]
  | dropped key slot found mine warm =>
    have fewer : (OrderedMap.delete pool.warm key).keys.length ≤ pool.warm.keys.length := by
      rw [OrderedMap.keys_delete]
      exact List.length_erase_le
    simp only [OrderedMap.keys, List.length_map] at fewer
    rw [warm]
    omega
  | evicted evictions => exact Nat.le_trans (evictions_length evictions) bounded
  | added registered key slot room warm entries free set =>
    have room := room roomy limited
    have oldest : registered.oldestIdle = pool.oldestIdle := by
      rw [oldestIdle, oldestIdle, warm, entries]
    have fewer := evictIfNeeded_room limited (warm ▸ bounded) (by rw [warm, oldest]; exact room)
    obtain ⟨left, handed, same, absent⟩ :=
      evictions_frame (evictIfNeeded_evicts config registered)
    have fresh : key ∉ (evictIfNeeded config registered).warm.keys := by
      refine OrderedMap.get?_eq_none_iff.mp ?_
      rw [same]
      exact absent key (by rw [warm, free])
    rw [set, OrderedMap.set_of_not_mem _ fresh, List.length_append]
    exact fewer

theorem startShared_warm (pool : Pool) (call : CallId) (platform : String)
    (identity : Option String) : (pool.startShared call platform identity).warm = pool.warm := by
  unfold startShared nextShared finish await
  split
  · rfl
  · split
    · rfl
    · split
      · rfl
      · split <;> rfl

theorem destroySession_warm (pool : Pool) (session : SessionId) :
    (pool.destroySession session).warm = pool.warm := by
  unfold destroySession
  split <;> rfl

/-- A session that is asked for drops at most an idle slot. -/
theorem Sound.createSession_slots (sound : pool.Sound config ledger) (now : Nat)
    (opts : SessionOptions) (attaches : Bool) :
    Slots config pool (pool.createSession config now opts attaches)
      (.createSession opts attaches) := by
  unfold Pool.createSession
  dsimp only
  cases reuse : reusable config pool opts with
  | none => exact .same rfl
  | some found =>
    obtain ⟨slot, lease⟩ := found
    unfold reusable at reuse
    split at reuse
    · nomatch reuse
    split at reuse
    · nomatch reuse
    · rename_i own keyed
      dsimp only at reuse
      split at reuse
      · nomatch reuse
      rename_i idle
      obtain ⟨key, asked, there⟩ := Option.bind_eq_some_iff.mp keyed
      obtain ⟨context, leased, same⟩ := Option.map_eq_some_iff.mp reuse
      cases same
      have named := (sound.keyed key slot there).1
      have idle := Bool.eq_false_iff.mpr idle
      subst named
      dsimp only [Pool.reuseWarm]
      split
      · exact .dropped _ slot there (.inl idle) rfl
      · split
        · exact .same rfl
        · exact .dropped _ slot there (.inl idle) rfl

theorem tryCheckoutReadySession_warm (config : PoolOptions) (pool : Pool) (now : Nat)
    (platform : String) (identity : Option String) (attaches : Bool) :
    (pool.tryCheckoutReadySession config now platform identity attaches).warm = pool.warm := by
  unfold tryCheckoutReadySession
  dsimp only
  split
  · rw [startShared_warm]
  · split
    · rw [startShared_warm]
    · rfl

/-- The end of a drive drops at most the slot of its own session. -/
theorem Sound.endDrive_slots (sound : pool.Sound config ledger) (now : Nat) (caller : Caller)
    (session : SessionId) (detaches : Bool) :
    Slots config pool (pool.endDrive config now session detaches)
      (.endDrive caller session detaches) := by
  unfold Pool.endDrive
  dsimp only
  split
  · exact .same rfl
  split
  · split
    · exact .same rfl
    · cases own : ownSlot config pool session with
      | none => exact .same rfl
      | some pair => cases detaches <;> exact .same rfl
  · have kept : ({ pool with next := pool.next + 1 }.unshareOwn session).warm = pool.warm := by
      unfold Pool.unshareOwn
      split <;> rfl
    cases own : ownSlot config pool session with
    | none => exact .same kept
    | some pair =>
      obtain ⟨key, slot⟩ := pair
      obtain ⟨-, -, there, recorded⟩ := ownSlot_some sound own
      rcases detachLeaseSafe_cases ({ pool with next := pool.next + 1 }.unshareOwn session) session
        detaches with none_ | ⟨context, -, detached⟩
      · dsimp only
        rw [none_]
        refine .dropped key slot there (.inr recorded) ?_
        dsimp only [await, unregister, dropSlot]
        rw [kept]
      · dsimp only
        rw [detached]
        exact .same kept

theorem Sound.claims_there (sound : pool.Sound config ledger) {call : CallId} {state : Call}
    {slot : SlotId} (waits : pool.calls call = some state) (claims : state.slot = some slot) :
    work Call.slot pool.calls call = some slot ∧
      OrderedMap.get? pool.warm (pool.entries slot).key = some slot := by
  have claimed : work Call.slot pool.calls call = some slot := by simp [work, waits, claims]
  exact ⟨claimed, (sound.claimed call slot claimed).1⟩

theorem created_slots (config : PoolOptions) (pool : Pool) (now : Nat) (call : CallId)
    (opts : SessionOptions) (detaches : Bool) (waits : pool.calls call = some (.creating opts)) :
    Slots config pool ((pool.created config now opts).finish call) (.resume call true detaches) := by
  unfold created
  dsimp only
  cases platform : present opts.platform with
  | none => exact .same rfl
  | some platform' =>
    dsimp only
    split
    · exact .same rfl
    · rename_i allowed
      simp only [Bool.or_eq_true, not_or, Bool.not_eq_true, Bool.not_eq_false'] at allowed
      obtain ⟨⟨used, enabled⟩, absent⟩ := allowed
      rw [Option.isSome_eq_false_iff, Option.isNone_iff_eq_none] at absent
      refine .added ({ pool with
        objects := Function.update pool.objects ⟨pool.next⟩
          (mintSession opts.platform opts.identity)
        bound := Function.update pool.bound ⟨pool.next⟩ (some ⟨pool.next⟩)
        createdFor := Function.update pool.createdFor ⟨pool.next⟩ (some opts.key)
        next := pool.next + 1 }.register ⟨pool.next⟩) (warmKey platform' opts.identity) _ ?_ rfl rfl
        absent rfl
      intro roomy limited
      simp only [Roomy, waits] at roomy
      have asked : opts.key = some (warmKey platform' opts.identity) := by
        rw [SessionOptions.key, platform]
        rfl
      exact roomy ⟨used, enabled, _, asked, absent⟩ limited

/-- A call that goes on drops at most the slot that it has claimed, or adds one. -/
theorem Sound.resume_slots (sound : pool.Sound config ledger) (now : Nat) (call : CallId)
    (succeeds detaches : Bool) :
    Slots config pool (pool.resume config now call succeeds detaches).1
      (.resume call succeeds detaches) := by
  unfold Pool.resume
  cases waits : pool.calls call with
  | none => exact .same rfl
  | some state =>
    cases state with
    | evicting opts => exact .same rfl
    | creating opts =>
      cases succeeds with
      | false => exact .same rfl
      | true => exact created_slots config pool now call opts detaches waits
    | resetting slot session opts =>
      cases succeeds with
      | true => exact .same rfl
      | false =>
        obtain ⟨claimed, there⟩ := sound.claims_there waits rfl
        refine .dropped _ slot there (.inr claimed) ?_
        exact destroySession_warm _ session
    | probingWarm slot session platform identity =>
      cases succeeds with
      | true => exact .same rfl
      | false =>
        obtain ⟨claimed, there⟩ := sound.claims_there waits rfl
        have asked := sound.asked call slot (warmKey platform identity) claimed
          (by simp [work, waits, Call.key])
        dsimp only
        rw [if_neg Bool.false_ne_true, Pool.notReady]
        rcases detachLeaseSafe_cases pool session detaches with none_ | ⟨context, -, detached⟩
        · rw [none_]
          refine .dropped _ slot there (.inr claimed) ?_
          rw [asked]
          exact destroySession_warm _ session
        · rw [detached]
          exact .same (startShared_warm _ call platform identity)
    | abandoning platform identity => exact .same (startShared_warm pool call platform identity)
    | probingShared platform identity serial stamp session =>
      cases succeeds with
      | true => exact .same rfl
      | false =>
        refine .same ?_
        dsimp only
        rw [if_neg Bool.false_ne_true, Pool.nextShared]
        split
        · rfl
        · split
          · rfl
          · split <;> rfl
    | releasing slot session lease =>
      obtain ⟨claimed, there⟩ := sound.claims_there waits rfl
      have works : work Call.session pool.calls call = some session := by
        simp [work, waits, Call.session]
      have named := sound.matched call slot session ((sound.claimant slot call).mpr claimed)
        ((sound.worker session call).mpr works)
      cases lease with
      | some context => exact .same rfl
      | none =>
        refine .dropped _ slot there (.inr claimed) ?_
        dsimp only [Pool.released]
        rw [named]
        exact destroySession_warm _ session
    | closing session => exact .same (destroySession_warm pool session)

theorem Sound.step_slots (sound : pool.Sound config ledger) (now : Nat) (event : Event) :
    Slots config pool (pool.step config now event).1 event := by
  cases event with
  | createSession opts attaches => exact sound.createSession_slots now opts attaches
  | tryCheckoutReadySession platform identity attaches =>
    exact .same (tryCheckoutReadySession_warm config pool now platform identity attaches)
  | endDrive caller session detaches => exact sound.endDrive_slots now caller session detaches
  | resume call succeeds detaches => exact sound.resume_slots now call succeeds detaches
  | sweep => exact .evicted (sweep_evicts config now sound.distinct)
  | registerSharedSession session platform =>
    refine .same ?_
    dsimp only [Pool.step, Pool.registerSharedSession]
    split <;> rfl
  | dispose session platform => exact .same rfl

end Pool

end Klura
