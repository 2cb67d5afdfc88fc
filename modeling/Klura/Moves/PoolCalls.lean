import Klura.Moves.PoolEvictions

/-! The calls of the pool keep its ledger right. -/

namespace Klura

namespace Pool

variable {config : PoolOptions} {pool : Pool} {ledger : Ledger}

/-- Whether a call that waits has neither a session nor a slot. -/
def Call.Rests : Call → Prop
  | .evicting _ | .creating _ | .abandoning .. | .probingShared .. => True
  | _ => False

/-- A call that rests may go on to rest, or end. -/
theorem Sound.rest (sound : pool.Sound config ledger) {call : CallId} {later : Option Call}
    (rested : ∀ state ∈ pool.calls call, state.Rests) (rests : ∀ state ∈ later, state.Rests)
    (old : call.number < pool.next) :
    ({ pool with calls := Function.update pool.calls call later }).Sound config ledger := by
  apply sound.frame <;> try first | rfl | exact Nat.le_refl _
  case keys => exact fun _ _ => rfl
  case lent => exact sound.lent
  case calls =>
    intro other fresh
    have differs : other ≠ call := by
      rintro rfl
      exact Nat.not_lt.mpr fresh old
    exact (Function.update_of_ne differs _ _).trans (sound.freshCall other fresh)
  case works =>
    intro α part evicting creating abandoning probing
    have rest (state : Option Call) (resting : ∀ inner ∈ state, inner.Rests) :
        state.bind part = none := by
      cases state with
      | none => rfl
      | some inner =>
        have resting := resting inner rfl
        cases inner with
        | evicting opts => exact evicting opts
        | creating opts => exact creating opts
        | abandoning platform identity => exact abandoning platform identity
        | probingShared platform identity serial stamp session =>
          exact probing platform identity serial stamp session
        | _ => exact resting.elim
    rw [work_update, rest later rests]
    have none_ : work part pool.calls call = none := rest _ rested
    rw [← none_, Function.update_eq_self]

theorem Sound.start (sound : pool.Sound config ledger) :
    ({ pool with next := pool.next + 1 }).Sound config ledger := by
  apply sound.frame <;> try rfl
  case works => exact fun _ _ _ _ _ => rfl
  case keys => exact fun _ _ => rfl
  case later => exact Nat.le_succ _
  case calls => exact fun call fresh => sound.freshCall call (by dsimp only at fresh; omega)
  case lent => exact sound.lent

theorem setBorrowed_same (session other : SessionId) (borrowed : Bool) :
    ((pool.setBorrowed session borrowed).objects other).key = (pool.objects other).key ∧
      (pool.setBorrowed session borrowed).isShared other = pool.isShared other := by
  have platform : ((pool.setBorrowed session borrowed).objects other).platform =
      (pool.objects other).platform ∧ ((pool.setBorrowed session borrowed).objects other).identity =
      (pool.objects other).identity := by
    unfold setBorrowed
    dsimp only
    by_cases same : other = session
    · rw [same, Function.update_self]
      exact ⟨rfl, rfl⟩
    · rw [Function.update_of_ne same]
      exact ⟨rfl, rfl⟩
  constructor
  · rw [Session.key, Session.key, platform.1, platform.2]
  · unfold isShared
    rw [platform.1]
    rfl

variable {session : SessionId}

theorem Sound.borrow (sound : pool.Sound config ledger) {borrowed : Bool}
    (backed : borrowed = true → pool.sessions session = true → pool.isShared session = true ∨ ledger.owns session ≠ none) :
    (pool.setBorrowed session borrowed).Sound config ledger := by
  apply sound.frame <;> try first | rfl | exact Nat.le_refl _
  case works => exact fun _ _ _ _ _ => rfl
  case keys => exact fun other _ => (setBorrowed_same session other borrowed).1
  case calls => exact sound.freshCall
  case lent =>
    intro other registered marked
    rw [(setBorrowed_same session other borrowed).2]
    by_cases same : other = session
    · subst same
      refine backed ?_ registered
      rw [setBorrowed] at marked
      dsimp only at marked
      rwa [Function.update_self] at marked
    · rw [setBorrowed] at marked
      dsimp only at marked
      rw [Function.update_of_ne same] at marked
      exact sound.lent other registered marked

theorem mintSession_key (platform identity : Option String) : (mintSession platform identity).key =
    (present platform).map fun platform => warmKey platform identity := by
  have twice : present (present identity) = present identity := by
    cases identity with
    | none => rfl
    | some text =>
      unfold present
      rw [Option.filter_filter]
      simp
  unfold mintSession Session.key warmKey
  rw [twice]

theorem warmKey_entry (platform : String) (identity : Option String) :
    warmKey platform (some (warmKey platform identity).identity) = warmKey platform identity := by
  unfold warmKey present DEFAULT_IDENTITY
  congr 1
  cases identity with
  | none => rfl
  | some text =>
    by_cases empty : text = ""
    · subst empty
      rfl
    · simp [Option.filter, empty]

theorem created_frame (config : PoolOptions) (pool : Pool) (now : Nat) (opts : SessionOptions) :
    (pool.created config now opts).calls = pool.calls ∧
      pool.next ≤ (pool.created config now opts).next := by
  unfold created
  dsimp only
  split
  · exact ⟨rfl, Nat.le_succ _⟩
  · split
    · exact ⟨rfl, Nat.le_succ _⟩
    · obtain ⟨warm, handed, same, -⟩ := evictions_frame (evictIfNeeded_evicts config ({ pool with
        objects := Function.update pool.objects ⟨pool.next⟩
          (mintSession opts.platform opts.identity)
        bound := Function.update pool.bound ⟨pool.next⟩ (some ⟨pool.next⟩)
        createdFor := Function.update pool.createdFor ⟨pool.next⟩ (some opts.key)
        next := pool.next + 1 }.register ⟨pool.next⟩))
      rw [same]
      exact ⟨rfl, by dsimp only [register]; omega⟩

variable {call : CallId}

theorem Sound.nextShared (sound : pool.Sound config ledger)
    (rested : ∀ state ∈ pool.calls call, state.Rests) (old : call.number < pool.next)
    (platform : String) (identity : Option String) (serial least : Nat) :
    (pool.nextShared call platform identity serial least).Sound config ledger := by
  unfold Pool.nextShared
  have ended : (pool.finish call).Sound config ledger := sound.rest rested nofun old
  split
  · exact ended
  · split
    · exact ended
    · split
      · exact ended
      · refine sound.rest rested ?_ old
        rintro state ⟨⟩
        trivial

theorem startShared_calls (pool : Pool) (call : CallId) (later : Option Call) (platform : String)
    (identity : Option String) :
    { pool with calls := Function.update pool.calls call later }.startShared call platform identity =
      pool.startShared call platform identity := by
  unfold Pool.startShared Pool.nextShared finish await
  dsimp only
  simp only [Function.update_idem]

theorem Sound.startShared (sound : pool.Sound config ledger)
    (rested : ∀ state ∈ pool.calls call, state.Rests) (old : call.number < pool.next)
    (platform : String) (identity : Option String) :
    (pool.startShared call platform identity).Sound config ledger := by
  unfold Pool.startShared
  split
  · exact sound.rest rested nofun old
  · exact sound.nextShared rested old platform identity _ 0

variable {slot : SlotId}

theorem Sound.reuseWarm (sound : pool.Sound config ledger) {lease : ContextId}
    {opts : SessionOptions} (there : OrderedMap.get? pool.warm (pool.entries slot).key = some slot)
    (leased : (pool.entries slot).lease = some lease)
    (asked : opts.key = some (pool.entries slot).key) (quiet : pool.calls call = none)
    (old : call.number < pool.next) (now : Nat) (attaches : Bool) :
    ∃ ledger, (pool.reuseWarm now call slot lease opts attaches).Sound config ledger := by
  have waits : ∀ state ∈ some (Call.evicting opts), state.Rests := by
    rintro state ⟨⟩
    trivial
  have rested : ∀ state ∈ pool.calls call, state.Rests := by
    rw [quiet]
    nofun
  unfold Pool.reuseWarm
  dsimp only
  split
  · -- The device differs, so the slot goes.
    obtain ⟨place, dropped⟩ := sound.discard there leased (pool.entries slot) rfl
    have same : pool.setEntry slot (pool.entries slot) = pool := by
      rw [setEntry, Function.update_eq_self]
    rw [same] at dropped
    exact ⟨_, dropped.rest rested waits old⟩
  · split
    · refine sound.takeOver there leased rfl rfl rfl rfl rfl rfl rfl (.inl rfl) ?_ (.inl rfl) quiet
        old
      rw [mintSession_key]
      exact asked
    · obtain ⟨place, dropped⟩ := sound.discard there leased { pool.entries slot with
        lease := none, sessionId := none, inUse := true, lastUsedAt := now } rfl
      exact ⟨_, dropped.rest rested waits old⟩

/-- A session that is asked for keeps a pool sound. -/
theorem Sound.createSession (sound : pool.Sound config ledger) (now : Nat) (opts : SessionOptions)
    (attaches : Bool) :
    ∃ ledger, (pool.createSession config now opts attaches).Sound config ledger := by
  have quiet : pool.calls ⟨pool.next⟩ = none := sound.freshCall _ (Nat.le_refl _)
  unfold Pool.createSession
  dsimp only
  cases reuse : reusable config pool opts with
  | none =>
    refine ⟨ledger, sound.start.rest ?_ ?_ (Nat.lt_succ_self _)⟩
    · rw [quiet]
      nofun
    · rintro state ⟨⟩
      trivial
  | some found =>
    obtain ⟨slot, lease⟩ := found
    -- The slot that can be reused is the one of the key, it is not in use and it has a lease.
    unfold reusable at reuse
    split at reuse
    · nomatch reuse
    split at reuse
    · nomatch reuse
    · rename_i own keyed
      dsimp only at reuse
      split at reuse
      · nomatch reuse
      obtain ⟨key, asked, there⟩ := Option.bind_eq_some_iff.mp keyed
      obtain ⟨context, leased, same⟩ := Option.map_eq_some_iff.mp reuse
      cases same
      have named := (sound.keyed key slot there).1
      subst named
      exact sound.start.reuseWarm there leased asked quiet (Nat.lt_succ_self _) now attaches

/-- A session that the driver has created is registered, with a slot where it may have one. -/
theorem Sound.created (sound : pool.Sound config ledger) (now : Nat) (opts : SessionOptions) :
    ∃ ledger, (pool.created config now opts).Sound config ledger := by
  have key : (mintSession opts.platform opts.identity).key = opts.key := mintSession_key _ _
  obtain ⟨place, registered⟩ :=
    sound.create (mintSession opts.platform opts.identity) rfl
  rw [key] at registered
  unfold Pool.created
  dsimp only
  cases platform : present opts.platform with
  | none => exact ⟨_, registered⟩
  | some platform' =>
    dsimp only
    split
    · exact ⟨_, registered⟩
    · rename_i allowed
      simp only [Bool.or_eq_true, not_or, Bool.not_eq_true, Bool.not_eq_false'] at allowed
      obtain ⟨⟨-, enabled⟩, absent⟩ := allowed
      rw [Option.isSome_eq_false_iff, Option.isNone_iff_eq_none] at absent
      -- Making room leaves the session and its key alone.
      have evictions := evictIfNeeded_evicts config ({ pool with
        objects := Function.update pool.objects ⟨pool.next⟩
          (mintSession opts.platform opts.identity)
        bound := Function.update pool.bound ⟨pool.next⟩ (some ⟨pool.next⟩)
        createdFor := Function.update pool.createdFor ⟨pool.next⟩ (some opts.key)
        next := pool.next + 1 }.register ⟨pool.next⟩)
      obtain ⟨place, roomy⟩ := Sound.evictions evictions registered
      obtain ⟨warm, handed, same, free⟩ := evictions_frame evictions
      rw [same] at roomy ⊢
      have asked : opts.key = some (warmKey platform' opts.identity) := by
        rw [SessionOptions.key, platform]
        rfl
      have full : platform' ≠ "" := by
        have kept := (Option.filter_eq_some_iff.mp platform).2
        simpa using kept
      have serves : (Function.update pool.objects ⟨pool.next⟩
          (mintSession opts.platform opts.identity) ⟨pool.next⟩).key =
            some (warmKey platform' opts.identity) := by
        rw [Function.update_self, key, asked]
      have there : Function.update pool.sessions ⟨pool.next⟩ true ⟨pool.next⟩ = true :=
        Function.update_self _ _ _
      obtain ⟨owns, slotted⟩ := @Sound.addSlot _ _ _ roomy ⟨pool.next⟩ _ {
        platform := platform'
        identity := (present opts.identity).getD DEFAULT_IDENTITY
        lease := none
        sessionId := some ⟨pool.next⟩
        deviceFingerprint := opts.device
        lastUsedAt := now
        inUse := true } enabled full there serves (free _ absent)
          (warmKey_entry platform' opts.identity) rfl rfl rfl
      exact ⟨_, slotted⟩

theorem Sound.tryCheckoutReadySession (sound : pool.Sound config ledger) (now : Nat)
    (platform : String) (identity : Option String) (attaches : Bool) : ∃ ledger,
      (pool.tryCheckoutReadySession config now platform identity attaches).Sound config ledger := by
  have quiet : pool.calls ⟨pool.next⟩ = none := sound.freshCall _ (Nat.le_refl _)
  have rested : ∀ state ∈ pool.calls ⟨pool.next⟩, state.Rests := by
    rw [quiet]
    nofun
  have shared := sound.start.startShared rested (Nat.lt_succ_self _) platform identity
  unfold Pool.tryCheckoutReadySession
  dsimp only
  cases found : (OrderedMap.get? pool.warm (warmKey platform identity)).bind fun slot =>
      (pool.entries slot).lease.map fun lease => (slot, lease) with
  | none => exact ⟨_, shared⟩
  | some pair =>
    obtain ⟨slot, lease⟩ := pair
    obtain ⟨slot', there, leased⟩ := Option.bind_eq_some_iff.mp found
    obtain ⟨lease', leased, same⟩ := Option.map_eq_some_iff.mp leased
    cases same
    dsimp only
    split
    · exact ⟨_, shared⟩
    · have named := sound.keyed _ slot there
      refine sound.start.takeOver (named.1 ▸ there) leased rfl rfl rfl rfl rfl rfl rfl (.inr rfl) ?_
        (.inr (congrArg some named.1.symm)) quiet (Nat.lt_succ_self _)
      have full : present (some platform) = some platform := by
        have inhabited : platform ≠ "" := named.2.1
        simpa [present, Option.filter] using inhabited
      rw [mintSession_key, full, named.1]
      rfl

theorem destroySession_calls (pool : Pool) (session : SessionId) :
    (pool.destroySession session).calls = pool.calls := by
  unfold destroySession
  split <;> rfl

theorem detachLeaseSafe_cases (pool : Pool) (session : SessionId) (detaches : Bool) :
    pool.detachLeaseSafe session detaches = (pool, none) ∨ ∃ context,
      pool.bound session = some context ∧ pool.detachLeaseSafe session detaches =
        ({ pool with bound := Function.update pool.bound session none }, some context) := by
  unfold detachLeaseSafe
  cases detaches with
  | false => exact .inl rfl
  | true =>
    rw [if_pos rfl]
    cases holds : pool.bound session with
    | none =>
      left
      rw [← holds, Function.update_eq_self]
    | some context => exact .inr ⟨context, rfl, rfl⟩

/-- A probe that fails keeps a pool sound. -/
theorem Sound.notReady (sound : pool.Sound config ledger) {platform : String}
    {identity : Option String}
    (waits : pool.calls call = some (.probingWarm slot session platform identity)) (now : Nat)
    (detaches : Bool) : ∃ ledger,
      (pool.notReady now call slot session platform identity detaches).Sound config ledger := by
  have old : call.number < pool.next := by
    by_contra fresh
    rw [sound.freshCall call (Nat.le_of_not_lt fresh)] at waits
    nomatch waits
  have named : (pool.entries slot).key = warmKey platform identity :=
    sound.asked call slot _ (by simp [work, waits, Call.slot]) (by simp [work, waits, Call.key])
  unfold Pool.notReady
  rcases detachLeaseSafe_cases pool session detaches with kept | ⟨context, holds, detached⟩
  · obtain ⟨after, dropped⟩ := @Sound.giveUp _ _ _ sound _ _ _ _ { pool.entries slot with
      sessionId := none, inUse := false, lastUsedAt := now, lease := none }
        (some (.abandoning platform identity)) waits rfl rfl rfl rfl ⟨rfl, rfl, rfl, rfl⟩
    refine ⟨after, ?_⟩
    rw [kept]
    dsimp only
    rw [await, destroySession_calls, ← named]
    exact dropped
  · -- The checkout goes on as if it had never claimed the slot.
    obtain ⟨after, stashed⟩ := @Sound.restash _ _ _ sound _ _ _ _ context { pool.entries slot with
      sessionId := none, inUse := false, lastUsedAt := now, lease := some context }
        (some (.abandoning platform identity)) waits rfl rfl rfl holds rfl rfl rfl rfl
          ⟨rfl, rfl, rfl, rfl⟩
    have rested : ∀ state ∈ Function.update pool.calls call (some (.abandoning platform identity))
        call, state.Rests := by
      rw [Function.update_self]
      rintro state ⟨⟩
      trivial
    have shared := stashed.startShared rested old platform identity
    rw [detached]
    refine ⟨after, ?_⟩
    dsimp only
    rw [← startShared_calls _ _ (some (.abandoning platform identity))]
    exact shared

/-- A session that is unshared is shared no longer, and the others are shared as before. -/
theorem isShared_unshare {other : SessionId} (platform : String) (differs : other ≠ session) :
    (pool.unshare session platform).isShared other = pool.isShared other := by
  have keeps : ∀ bucket : Bucket, (∃ kept, bucket.without session = some kept ∧
      (other ∈ kept.members.map Prod.snd ↔ other ∈ bucket.members.map Prod.snd)) ∨
        (bucket.without session = none ∧ other ∉ bucket.members.map Prod.snd) := by
    intro bucket
    have filtered : other ∈ (bucket.members.filter fun member =>
        decide (member.2 ≠ session)).map Prod.snd ↔ other ∈ bucket.members.map Prod.snd := by
      constructor
      · intro inside
        obtain ⟨member, kept, same⟩ := List.mem_map.mp inside
        exact List.mem_map.mpr ⟨member, (List.mem_filter.mp kept).1, same⟩
      · intro inside
        obtain ⟨member, there, same⟩ := List.mem_map.mp inside
        refine List.mem_map.mpr ⟨member, List.mem_filter.mpr ⟨there, decide_eq_true ?_⟩, same⟩
        rw [same]
        exact differs
    unfold Bucket.without
    dsimp only
    split
    · rename_i empty
      rw [empty] at filtered
      exact .inr ⟨rfl, fun inside => absurd (filtered.mpr inside) (by simp)⟩
    · exact .inl ⟨_, rfl, filtered⟩
  unfold isShared unshare
  dsimp only
  cases named : (pool.objects other).platform with
  | none => rfl
  | some own =>
    rw [Option.bind_some, Option.bind_some]
    by_cases same : own = platform
    · subst same
      rw [Function.update_self]
      cases pool.shared own with
      | none => rfl
      | some bucket =>
        rw [Option.bind_some]
        rcases keeps bucket with ⟨kept, found, members⟩ | ⟨found, absent⟩
        · rw [found]
          exact decide_eq_decide.mpr members
        · rw [found]
          exact (decide_eq_false absent).symm
    · rw [Function.update_of_ne same]

theorem Sound.unshare (sound : pool.Sound config ledger)
    (free : pool.sessions session = true → (pool.objects session).borrowed = false)
    (platform : String) :
    (pool.unshare session platform).Sound config ledger := by
  apply sound.frame <;> try first | rfl | exact Nat.le_refl _
  case works => exact fun _ _ _ _ _ => rfl
  case keys => exact fun _ _ => rfl
  case calls => exact sound.freshCall
  case lent =>
    intro other registered borrowed
    have differs : other ≠ session := by
      rintro rfl
      have marked : (pool.objects other).borrowed = true := borrowed
      rw [free registered] at marked
      nomatch marked
    rw [isShared_unshare platform differs]
    exact sound.lent other registered borrowed

theorem Sound.unshareOwn (sound : pool.Sound config ledger)
    (free : (pool.objects session).borrowed = false) :
    (pool.unshareOwn session).Sound config ledger := by
  unfold Pool.unshareOwn
  split
  · exact sound
  · exact sound.unshare (fun _ => free) _

/-- A session that is shared stays shared when another one is, since a bucket only grows. -/
theorem isShared_register {other : SessionId} (shared : pool.isShared other = true)
    (session : SessionId) (platform : String) :
    (pool.registerSharedSession session platform).isShared other = true := by
  unfold registerSharedSession
  dsimp only
  split
  · exact shared
  · unfold isShared at shared ⊢
    dsimp only at shared ⊢
    cases named : (pool.objects other).platform with
    | none =>
      rw [named] at shared
      nomatch shared
    | some own =>
      rw [named, Option.bind_some] at shared
      rw [Option.bind_some]
      by_cases same : own = platform
      · subst same
        rw [Function.update_self]
        cases bucket : pool.shared own with
        | none =>
          rw [bucket] at shared
          nomatch shared
        | some found =>
          rw [bucket] at shared
          have inside := of_decide_eq_true shared
          refine decide_eq_true ?_
          rw [List.map_append]
          exact List.mem_append_left _ inside
      · rw [Function.update_of_ne same]
        exact shared

theorem registerSharedSession_frame (pool : Pool) (session : SessionId) (platform : String) :
    ∃ shared next, pool.next ≤ next ∧
      pool.registerSharedSession session platform = { pool with shared, next } := by
  unfold registerSharedSession
  dsimp only
  split
  · exact ⟨pool.shared, pool.next, Nat.le_refl _, rfl⟩
  · exact ⟨_, pool.next + 1, Nat.le_succ _, rfl⟩

theorem Sound.registerSharedSession (sound : pool.Sound config ledger) (session : SessionId)
    (platform : String) : (pool.registerSharedSession session platform).Sound config ledger := by
  obtain ⟨shared, next, later, same⟩ := registerSharedSession_frame pool session platform
  have keeps : ∀ other, pool.isShared other = true →
      ({ pool with shared, next }).isShared other = true := fun other shared_ =>
    same ▸ isShared_register shared_ session platform
  rw [same]
  apply sound.frame <;> try rfl
  case works => exact fun _ _ _ _ _ => rfl
  case keys => exact fun _ _ => rfl
  case later => exact later
  case calls => exact fun call fresh => sound.freshCall call (Nat.le_trans later fresh)
  case lent =>
    exact fun other registered borrowed =>
      (sound.lent other registered borrowed).imp_left (keeps other)

theorem ownSlot_some {key : WarmKey} (sound : pool.Sound config ledger)
    (own : ownSlot config pool session = some (key, slot)) :
    (pool.entries slot).key = key ∧ (pool.objects session).key = some key ∧
      OrderedMap.get? pool.warm key = some slot ∧ (pool.entries slot).sessionId = some session := by
  unfold ownSlot at own
  split at own
  · nomatch own
  · split at own
    · nomatch own
    · rename_i named
      split at own
      · nomatch own
      · rename_i there
        split at own
        · rename_i recorded
          cases own
          exact ⟨(sound.keyed _ _ there).1, named, there, recorded⟩
        · nomatch own

theorem ownSlot_owns (sound : pool.Sound config ledger) (owns : ledger.owns session = some slot) :
    ownSlot config pool session = some ((pool.entries slot).key, slot) := by
  obtain ⟨enabled, -, there, recorded, named⟩ := sound.owned session slot owns
  unfold ownSlot
  rw [enabled, named]
  simp only [Bool.not_true, Bool.false_eq_true, if_false, there, recorded, if_true]

/-- The end of a drive keeps a pool sound. -/
theorem Sound.endDrive (sound : pool.Sound config ledger) (now : Nat) (session : SessionId)
    (detaches : Bool) : ∃ ledger, (pool.endDrive config now session detaches).Sound config ledger := by
  have quiet : pool.calls ⟨pool.next⟩ = none := sound.freshCall _ (Nat.le_refl _)
  have start := sound.start
  unfold Pool.endDrive
  dsimp only
  split
  · exact ⟨_, start⟩
  rename_i known
  have registered : pool.sessions session = true := by simpa using known
  split
  · rename_i borrowed
    split
    · -- The session is still its owner's.
      exact ⟨_, start.borrow nofun⟩
    · rename_i unshared
      rcases sound.lent session registered borrowed with shared | owns
      · exact absurd shared unshared
      · obtain ⟨slot, owns⟩ := Option.ne_none_iff_exists'.mp owns
        obtain ⟨-, -, there, recorded, named⟩ := sound.owned session slot owns
        rw [ownSlot_owns sound owns]
        dsimp only
        obtain ⟨after, released⟩ := @Sound.release _ _ _ start _ _ _
          { pool.objects session with borrowed := false } registered there recorded named rfl quiet
          (Nat.lt_succ_self _) detaches
        refine ⟨after, ?_⟩
        cases detaches <;> exact released
  · rename_i free
    have free : (pool.objects session).borrowed = false := Bool.eq_false_iff.mpr free
    obtain ⟨shared, same⟩ : ∃ shared, { pool with next := pool.next + 1 }.unshareOwn session =
        { pool with next := pool.next + 1, shared } := by
      unfold Pool.unshareOwn
      split
      · exact ⟨pool.shared, rfl⟩
      · exact ⟨_, rfl⟩
    have unshared := start.unshareOwn free
    rw [same] at unshared ⊢
    have young : (⟨pool.next⟩ : CallId).number < pool.next + 1 := Nat.lt_succ_self _
    cases own : ownSlot config pool session with
    | none => exact unshared.close registered quiet young
    | some pair =>
      obtain ⟨key, slot⟩ := pair
      obtain ⟨named, serves, there, recorded⟩ := ownSlot_some sound own
      subst named
      dsimp only
      rcases detachLeaseSafe_cases { pool with next := pool.next + 1, shared } session detaches with
        kept | ⟨context, holds, detached⟩
      · obtain ⟨owns, forgotten⟩ := unshared.forget registered there recorded free
        rw [kept]
        exact forgotten.close registered quiet young
      · rw [detached]
        exact unshared.stash registered there recorded serves holds rfl rfl rfl rfl

theorem Sound.released (sound : pool.Sound config ledger) {lease : Option ContextId}
    (waits : pool.calls call = some (.releasing slot session lease)) (now : Nat) :
    ∃ ledger, ((pool.released now slot session lease).finish call).Sound config ledger := by
  unfold Pool.released
  cases lease with
  | some context => exact sound.giveBack waits rfl rfl rfl rfl
  | none =>
    have works : work Call.session pool.calls call = some session := by
      simp [work, waits, Call.session]
    have claims : work Call.slot pool.calls call = some slot := by simp [work, waits, Call.slot]
    have named := sound.matched call slot session ((sound.claimant slot call).mpr claims)
      ((sound.worker session call).mpr works)
    rw [named]
    obtain ⟨after, dropped⟩ := @Sound.giveUp _ _ _ sound _ _ _ _ (pool.entries slot) none waits rfl
      rfl rfl rfl ⟨rfl, rfl, rfl, rfl⟩
    have same : pool.setEntry slot (pool.entries slot) = pool := by
      rw [setEntry, Function.update_eq_self]
    rw [same] at dropped
    refine ⟨after, ?_⟩
    dsimp only
    rw [finish, destroySession_calls]
    exact dropped

/-- Whether an event lends only what is shared, and takes nothing from those who have borrowed it. -/
def Lends (pool : Pool) : Event → Prop
  | .resume call succeeds _ =>
    match pool.calls call with
    | some (.probingShared _ _ _ _ session) =>
      succeeds = true → pool.sessions session = true → pool.isShared session = true
    | _ => True
  | .dispose session _ => pool.sessions session = true → (pool.objects session).borrowed = false
  | _ => True

/-- A call that goes on keeps a pool sound. -/
theorem Sound.resume (sound : pool.Sound config ledger) (now : Nat) (call : CallId)
    (succeeds detaches : Bool) (lends : pool.Lends (.resume call succeeds detaches)) :
    ∃ ledger, (pool.resume config now call succeeds detaches).1.Sound config ledger := by
  unfold Pool.resume
  cases waits : pool.calls call with
  | none => exact ⟨_, sound⟩
  | some state =>
    have old : call.number < pool.next := by
      by_contra fresh
      rw [sound.freshCall call (Nat.le_of_not_lt fresh)] at waits
      nomatch waits
    have rested (rests : state.Rests) : ∀ inner ∈ pool.calls call, inner.Rests := by
      rw [waits]
      rintro inner ⟨⟩
      exact rests
    cases state with
    | evicting opts =>
      refine ⟨_, sound.rest (rested trivial) ?_ old⟩
      rintro inner ⟨⟩
      trivial
    | creating opts =>
      cases succeeds with
      | false => exact ⟨_, sound.rest (rested trivial) nofun old⟩
      | true =>
        obtain ⟨after, made⟩ := sound.created now opts
        obtain ⟨calls, later⟩ := created_frame config pool now opts
        refine ⟨after, made.rest ?_ nofun (Nat.lt_of_lt_of_le old later)⟩
        rw [calls]
        exact rested trivial
    | resetting slot session opts =>
      cases succeeds with
      | true =>
        obtain ⟨after, committed⟩ := @Sound.commit _ _ _ sound _ _ _ _ { pool.entries slot with
          sessionId := some session, lastUsedAt := now } (pool.objects session) waits rfl rfl rfl rfl
            rfl rfl rfl rfl
        rw [Function.update_eq_self] at committed
        exact ⟨after, committed⟩
      | false =>
        obtain ⟨after, dropped⟩ := @Sound.giveUp _ _ _ sound _ _ _ _ (pool.entries slot)
          (some (.evicting opts)) waits rfl rfl rfl rfl ⟨rfl, rfl, rfl, rfl⟩
        have same : pool.setEntry slot (pool.entries slot) = pool := by
          rw [setEntry, Function.update_eq_self]
        rw [same] at dropped
        refine ⟨after, ?_⟩
        dsimp only
        rw [if_neg Bool.false_ne_true, await, destroySession_calls]
        exact dropped
    | probingWarm slot session platform identity =>
      cases succeeds with
      | true =>
        have slotted := sound.claimed call slot (by simp [work, waits, Call.slot])
        obtain ⟨after, committed⟩ := @Sound.commit _ _ _ sound _ _ _ _ (pool.entries slot)
          { pool.objects session with borrowed := true } waits rfl rfl rfl rfl rfl rfl
            (slotted.2.2.trans (by simp [work, waits, Call.owner])) rfl
        have same : pool.setEntry slot (pool.entries slot) = pool := by
          rw [setEntry, Function.update_eq_self]
        rw [same] at committed
        exact ⟨after, committed⟩
      | false => exact sound.notReady waits now detaches
    | abandoning platform identity => exact ⟨_, sound.startShared (rested trivial) old platform identity⟩
    | probingShared platform identity serial stamp session =>
      cases succeeds with
      | true =>
        have shared : pool.sessions session = true → pool.isShared session = true := by
          simp only [Lends, waits] at lends
          exact lends trivial
        have marked : (pool.setBorrowed session true).Sound config ledger :=
          sound.borrow fun _ registered => .inl (shared registered)
        exact ⟨_, marked.rest (rested trivial) nofun old⟩
      | false => exact ⟨_, sound.nextShared (rested trivial) old platform identity serial (stamp + 1)⟩
    | releasing slot session lease => exact sound.released waits now
    | closing session => exact sound.end_ waits

theorem Sound.step (sound : pool.Sound config ledger) (now : Nat) (event : Event)
    (lends : pool.Lends event) : ∃ ledger, (pool.step config now event).1.Sound config ledger := by
  cases event with
  | createSession opts attaches => exact sound.createSession now opts attaches
  | tryCheckoutReadySession platform identity attaches =>
    exact sound.tryCheckoutReadySession now platform identity attaches
  | endDrive caller session detaches => exact sound.endDrive now session detaches
  | resume call succeeds detaches => exact sound.resume now call succeeds detaches lends
  | sweep =>
    obtain ⟨place, swept⟩ := Sound.evictions (sweep_evicts config now sound.distinct) sound
    exact ⟨_, swept⟩
  | registerSharedSession session platform =>
    exact ⟨_, sound.registerSharedSession session platform⟩
  | dispose session platform => exact ⟨_, sound.unshare lends platform⟩

end Pool

end Klura
