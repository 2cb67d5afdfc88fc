import Klura.Moves.PoolSlots

/-! What the calls of the pool leave alone of a session that they are not about. -/

namespace Klura

namespace Pool

variable {config : PoolOptions} {pool after : Pool} {ledger : Ledger} {session : SessionId}
  {settled : Prop}

/-- The session that a call is about to hand out for the first time. -/
def Call.minted : Call → Option SessionId
  | .resetting _ session _ | .probingWarm _ session _ _ => some session
  | _ => none

/-- The shared session that a call waits for the probe of. -/
def Call.probes : Call → Option SessionId
  | .probingShared _ _ _ _ session => some session
  | _ => none

/-- What an event leaves alone of a session, the context of which it leaves alone where the session
is settled. -/
structure Undisturbed (settled : Prop) (session : SessionId) (before after : Pool) : Prop where
  registered : after.sessions session = before.sessions session
  object : after.objects session = before.objects session
  bound : settled → after.bound session = before.bound session
  shared : before.isShared session = true → after.isShared session = true

theorem Undisturbed.frame (registered : after.sessions session = pool.sessions session)
    (object : after.objects session = pool.objects session)
    (bound : settled → after.bound session = pool.bound session)
    (shared : after.shared = pool.shared) : Undisturbed settled session pool after where
  registered := registered
  object := object
  bound := bound
  shared held := by
    rw [isShared] at held ⊢
    rw [object, shared]
    exact held

theorem SessionId.differs {session : SessionId} {next : Nat} (old : session.number < next) :
    session ≠ ⟨next⟩ := by
  rintro rfl
  exact Nat.lt_irrefl _ old

variable {other : SessionId}

theorem destroySession_undisturbed (differs : settled → session ≠ other) :
    Undisturbed settled session pool (pool.destroySession other) := by
  unfold destroySession
  split
  · exact .frame rfl rfl (fun _ => rfl) rfl
  · exact .frame rfl rfl (fun holds => Function.update_of_ne (differs holds) _ _) rfl

/-- What a call waits for once it has turned to the shared sessions: the probe of one of them, at
most. -/
def Turns (pool : Pool) (later : Option Call) : Prop :=
  later.bind Call.minted = none ∧ ∀ session, later.bind Call.probes = some session →
    ∃ platform bucket, pool.shared platform = some bucket ∧
      session ∈ bucket.members.map Prod.snd

theorem nextShared_frame (pool : Pool) (call : CallId) (platform : String)
    (identity : Option String) (serial least : Nat) :
    ∃ later, pool.Turns later ∧ pool.nextShared call platform identity serial least =
      { pool with calls := Function.update pool.calls call later } := by
  have ended : pool.Turns none := ⟨rfl, nofun⟩
  unfold nextShared
  split
  · exact ⟨none, ended, rfl⟩
  · rename_i bucket shared
    split
    · exact ⟨none, ended, rfl⟩
    · split
      · exact ⟨none, ended, rfl⟩
      · rename_i stamp session found
        refine ⟨_, ⟨rfl, ?_⟩, rfl⟩
        rintro other ⟨⟩
        exact ⟨platform, bucket, shared, List.mem_map.mpr ⟨_, List.mem_of_find?_eq_some found, rfl⟩⟩

theorem startShared_frame (pool : Pool) (call : CallId) (platform : String)
    (identity : Option String) :
    ∃ later, pool.Turns later ∧ pool.startShared call platform identity =
      { pool with calls := Function.update pool.calls call later } := by
  unfold startShared
  split
  · exact ⟨none, ⟨rfl, nofun⟩, rfl⟩
  · exact nextShared_frame pool call platform identity _ 0

theorem createSession_undisturbed (config : PoolOptions) (now : Nat) (opts : SessionOptions)
    (attaches : Bool) (old : session.number < pool.next) :
    Undisturbed settled session pool (pool.createSession config now opts attaches) := by
  have differs := SessionId.differs (Nat.lt_succ_of_lt old)
  unfold createSession
  dsimp only
  split
  · unfold reuseWarm
    dsimp only
    split
    · exact .frame rfl rfl (fun _ => rfl) rfl
    · split
      · exact .frame rfl (Function.update_of_ne differs _ _)
          (fun _ => Function.update_of_ne differs _ _) rfl
      · exact .frame rfl rfl (fun _ => rfl) rfl
  · exact .frame rfl rfl (fun _ => rfl) rfl

theorem tryCheckoutReadySession_undisturbed (config : PoolOptions) (now : Nat) (platform : String)
    (identity : Option String) (attaches : Bool) (old : session.number < pool.next) :
    Undisturbed settled session pool
      (pool.tryCheckoutReadySession config now platform identity attaches) := by
  have differs := SessionId.differs (Nat.lt_succ_of_lt old)
  obtain ⟨later, -, same⟩ := startShared_frame { pool with next := pool.next + 1 } ⟨pool.next⟩ platform
    identity
  unfold tryCheckoutReadySession
  dsimp only
  rw [same]
  split
  · exact .frame rfl rfl (fun _ => rfl) rfl
  · split
    · exact .frame rfl rfl (fun _ => rfl) rfl
    · exact .frame rfl (Function.update_of_ne differs _ _)
        (fun _ => Function.update_of_ne differs _ _) rfl

theorem created_undisturbed (config : PoolOptions) (now : Nat) (opts : SessionOptions)
    (old : session.number < pool.next) :
    Undisturbed settled session pool (pool.created config now opts) := by
  have differs := SessionId.differs old
  unfold created
  dsimp only
  split
  · exact .frame (Function.update_of_ne differs _ _) (Function.update_of_ne differs _ _)
      (fun _ => Function.update_of_ne differs _ _) rfl
  · split
    · exact .frame (Function.update_of_ne differs _ _) (Function.update_of_ne differs _ _)
        (fun _ => Function.update_of_ne differs _ _) rfl
    · obtain ⟨warm, handed, same, -⟩ := evictions_frame (evictIfNeeded_evicts config ({ pool with
        objects := Function.update pool.objects ⟨pool.next⟩
          (mintSession opts.platform opts.identity)
        bound := Function.update pool.bound ⟨pool.next⟩ (some ⟨pool.next⟩)
        createdFor := Function.update pool.createdFor ⟨pool.next⟩ (some opts.key)
        next := pool.next + 1 }.register ⟨pool.next⟩))
      rw [same]
      exact .frame (Function.update_of_ne differs _ _) (Function.update_of_ne differs _ _)
        (fun _ => Function.update_of_ne differs _ _) rfl

theorem Sound.unhidden (sound : pool.Sound config ledger) (registered : pool.sessions session = true)
    (call : CallId) : work Call.session pool.calls call ≠ some session := by
  intro works
  have hidden := sound.hidden session (by rw [(sound.worker session call).mpr works]; nofun)
  rw [registered] at hidden
  nomatch hidden

theorem unshareOwn_undisturbed (differs : session ≠ other) :
    Undisturbed settled session pool (pool.unshareOwn other) := by
  unfold unshareOwn
  split
  · exact .frame rfl rfl (fun _ => rfl) rfl
  · exact ⟨rfl, rfl, fun _ => rfl, fun shared => (isShared_unshare _ differs).trans shared⟩

theorem Undisturbed.trans {middle : Pool} (first : Undisturbed settled session pool middle)
    (second : Undisturbed settled session middle after) : Undisturbed settled session pool after where
  registered := second.registered.trans first.registered
  object := second.object.trans first.object
  bound holds := (second.bound holds).trans (first.bound holds)
  shared held := second.shared (first.shared held)

/-- The end of a drive disturbs no other session. -/
theorem endDrive_undisturbed (config : PoolOptions) (now : Nat) (detaches : Bool)
    (differs : session ≠ other) :
    Undisturbed settled session pool (pool.endDrive config now other detaches) := by
  have started : Undisturbed settled session pool { pool with next := pool.next + 1 } :=
    .frame rfl rfl (fun _ => rfl) rfl
  unfold endDrive
  dsimp only
  split
  · exact started
  split
  · split
    · exact .frame rfl (Function.update_of_ne differs _ _) (fun _ => rfl) rfl
    · split
      · rcases detachLeaseSafe_cases ({ pool with next := pool.next + 1 }.setBorrowed other false)
          other detaches with kept | ⟨context, -, detached⟩
        · rw [kept]
          exact .frame (Function.update_of_ne differs _ _) (Function.update_of_ne differs _ _)
            (fun _ => rfl) rfl
        · rw [detached]
          exact .frame (Function.update_of_ne differs _ _) (Function.update_of_ne differs _ _)
            (fun _ => Function.update_of_ne differs _ _) rfl
      · exact .frame (Function.update_of_ne differs _ _) (Function.update_of_ne differs _ _)
          (fun _ => rfl) rfl
  · refine started.trans ((unshareOwn_undisturbed differs).trans ?_)
    split
    · exact .frame (Function.update_of_ne differs _ _) rfl (fun _ => rfl) rfl
    · rcases detachLeaseSafe_cases ({ pool with next := pool.next + 1 }.unshareOwn other) other
        detaches with kept | ⟨context, -, detached⟩
      · rw [kept]
        exact .frame (Function.update_of_ne differs _ _) rfl (fun _ => rfl) rfl
      · rw [detached]
        exact .frame (Function.update_of_ne differs _ _) rfl
          (fun _ => Function.update_of_ne differs _ _) rfl

/-- A call that goes on disturbs no session that it does not hand out. -/
theorem resume_undisturbed (config : PoolOptions) (now : Nat) (call : CallId)
    (succeeds detaches : Bool) (old : session.number < pool.next)
    (issued : work Call.minted pool.calls call ≠ some session)
    (foreign : settled → work Call.session pool.calls call ≠ some session)
    (free : ∀ platform identity, (pool.resume config now call succeeds detaches).2 ≠
      some (.checkedOut platform identity session)) :
    Undisturbed settled session pool (pool.resume config now call succeeds detaches).1 := by
  unfold Pool.resume at free ⊢
  cases waits : pool.calls call with
  | none => exact .frame rfl rfl (fun _ => rfl) rfl
  | some state =>
    rw [waits] at free
    have elsewhere (other : SessionId) (works : state.session = some other) :
        settled → session ≠ other := by
      rintro holds rfl
      exact foreign holds (by simp [work, waits, works])
    have minted (other : SessionId) (mints : state.minted = some other) : session ≠ other := by
      rintro rfl
      exact issued (by simp [work, waits, mints])
    cases state with
    | evicting opts => exact .frame rfl rfl (fun _ => rfl) rfl
    | creating opts =>
      cases succeeds with
      | false => exact .frame rfl rfl (fun _ => rfl) rfl
      | true =>
        exact (created_undisturbed config now opts old).trans (.frame rfl rfl (fun _ => rfl) rfl)
    | resetting slot other opts =>
      cases succeeds with
      | true =>
        exact .frame (Function.update_of_ne (minted other rfl) _ _) rfl (fun _ => rfl) rfl
      | false =>
        have dropped : Undisturbed settled session pool (pool.dropSlot (pool.entries slot).key) :=
          .frame rfl rfl (fun _ => rfl) rfl
        exact (dropped.trans (destroySession_undisturbed (elsewhere other rfl))).trans
          (.frame rfl rfl (fun _ => rfl) rfl)
    | probingWarm slot other platform identity =>
      have differs := minted other rfl
      cases succeeds with
      | true =>
        exact .frame (Function.update_of_ne differs _ _) (Function.update_of_ne differs _ _)
          (fun _ => rfl) rfl
      | false =>
        dsimp only
        rw [if_neg Bool.false_ne_true, Pool.notReady]
        rcases detachLeaseSafe_cases pool other detaches with kept | ⟨context, -, detached⟩
        · rw [kept]
          dsimp only
          have dropped : Undisturbed settled session pool ((pool.setEntry slot { pool.entries slot with
              sessionId := none, inUse := false, lastUsedAt := now, lease := none }).dropSlot
                (warmKey platform identity)) := .frame rfl rfl (fun _ => rfl) rfl
          exact (dropped.trans (destroySession_undisturbed fun _ => differs)).trans
            (.frame rfl rfl (fun _ => rfl) rfl)
        · rw [detached]
          dsimp only
          obtain ⟨later, -, same⟩ := startShared_frame ({ pool with
            bound := Function.update pool.bound other none }.setEntry slot { pool.entries slot with
              sessionId := none, inUse := false, lastUsedAt := now, lease := some context }) call
                platform identity
          rw [same]
          exact .frame rfl rfl (fun _ => Function.update_of_ne differs _ _) rfl
    | abandoning platform identity =>
      obtain ⟨later, -, same⟩ := startShared_frame pool call platform identity
      dsimp only
      rw [same]
      exact .frame rfl rfl (fun _ => rfl) rfl
    | probingShared platform identity serial stamp other =>
      cases succeeds with
      | true =>
        have differs : session ≠ other := by
          rintro rfl
          exact free platform identity rfl
        exact .frame rfl (Function.update_of_ne differs _ _) (fun _ => rfl) rfl
      | false =>
        obtain ⟨later, -, same⟩ := nextShared_frame pool call platform identity serial (stamp + 1)
        dsimp only
        rw [if_neg Bool.false_ne_true, same]
        exact .frame rfl rfl (fun _ => rfl) rfl
    | releasing slot other lease =>
      have released : Undisturbed settled session pool (pool.released now slot other lease) := by
        unfold Pool.released
        cases lease with
        | some context => exact .frame rfl rfl (fun _ => rfl) rfl
        | none =>
          cases (pool.objects other).key with
          | none => exact destroySession_undisturbed (elsewhere other rfl)
          | some key =>
            have dropped : Undisturbed settled session pool (pool.dropSlot key) :=
              .frame rfl rfl (fun _ => rfl) rfl
            exact dropped.trans (destroySession_undisturbed (elsewhere other rfl))
      exact released.trans (.frame rfl rfl (fun _ => rfl) rfl)
    | closing other =>
      exact (destroySession_undisturbed (elsewhere other rfl)).trans
        (.frame rfl rfl (fun _ => rfl) rfl)

/-- Whether an event is about a session: its end, or the end of its registration. -/
def Event.about (session : SessionId) : Event → Prop
  | .endDrive _ other _ | .dispose other _ => other = session
  | _ => False

/-- The call that an event lets go on. -/
def Event.resumed : Event → Option CallId
  | .resume call _ _ => some call
  | _ => none

/-- A step disturbs no session that it is not about and does not hand out. -/
theorem Sound.step_undisturbed (sound : pool.Sound config ledger) (now : Nat) (event : Event)
    (old : session.number < pool.next)
    (issued : ∀ call ∈ event.resumed, work Call.minted pool.calls call ≠ some session)
    (elsewhere : settled → ∀ call ∈ event.resumed, work Call.session pool.calls call ≠ some session)
    (free : ∀ platform identity, (pool.step config now event).2 ≠
      some (.checkedOut platform identity session)) (foreign : ¬event.about session) :
    Undisturbed settled session pool (pool.step config now event).1 := by
  cases event with
  | createSession opts attaches => exact createSession_undisturbed config now opts attaches old
  | tryCheckoutReadySession platform identity attaches =>
    exact tryCheckoutReadySession_undisturbed config now platform identity attaches old
  | endDrive caller other detaches =>
    exact endDrive_undisturbed config now detaches fun same => foreign same.symm
  | resume call succeeds detaches =>
    exact resume_undisturbed config now call succeeds detaches old (issued call rfl)
      (fun holds => elsewhere holds call rfl) free
  | sweep =>
    obtain ⟨warm, handed, same, -⟩ := evictions_frame (sweep_evicts config now sound.distinct)
    dsimp only [Pool.step]
    rw [same]
    exact .frame rfl rfl (fun _ => rfl) rfl
  | registerSharedSession other platform =>
    obtain ⟨shared, next, later, same⟩ := registerSharedSession_frame pool other platform
    have keeps : pool.isShared session = true →
        (pool.registerSharedSession other platform).isShared session = true :=
      fun held => isShared_register held other platform
    dsimp only [Pool.step]
    rw [same] at keeps ⊢
    exact ⟨rfl, rfl, fun _ => rfl, keeps⟩
  | dispose other platform =>
    have differs : session ≠ other := fun same => foreign same.symm
    exact ⟨rfl, rfl, fun _ => rfl, fun held => (isShared_unshare platform differs).trans held⟩

theorem destroySession_frame (pool : Pool) (session : SessionId) :
    (pool.destroySession session).calls = pool.calls ∧
      (pool.destroySession session).shared = pool.shared := by
  unfold destroySession
  split <;> exact ⟨rfl, rfl⟩

theorem released_frame (pool : Pool) (now : Nat) (slot : SlotId) (session : SessionId)
    (lease : Option ContextId) : (pool.released now slot session lease).calls = pool.calls ∧
      (pool.released now slot session lease).shared = pool.shared := by
  unfold released
  split
  · exact ⟨rfl, rfl⟩
  · split
    · exact destroySession_frame pool session
    · exact destroySession_frame _ session

theorem created_shared (config : PoolOptions) (pool : Pool) (now : Nat) (opts : SessionOptions) :
    (pool.created config now opts).shared = pool.shared := by
  unfold created
  dsimp only
  split
  · rfl
  · split
    · rfl
    · obtain ⟨warm, handed, same, -⟩ := evictions_frame (evictIfNeeded_evicts config ({ pool with
        objects := Function.update pool.objects ⟨pool.next⟩
          (mintSession opts.platform opts.identity)
        bound := Function.update pool.bound ⟨pool.next⟩ (some ⟨pool.next⟩)
        createdFor := Function.update pool.createdFor ⟨pool.next⟩ (some opts.key)
        next := pool.next + 1 }.register ⟨pool.next⟩))
      rw [same]
      rfl

/-- A call that goes on shares nothing, and what it turns to hands out no session of its own. -/
theorem resume_frame (config : PoolOptions) (pool : Pool) (now : Nat) (call : CallId)
    (succeeds detaches : Bool) : ∃ later, pool.Turns later ∧
      (pool.resume config now call succeeds detaches).1.calls =
        Function.update pool.calls call later ∧
      (pool.resume config now call succeeds detaches).1.shared = pool.shared := by
  have quiet (later : Option Call) (mints : later.bind Call.minted = none)
      (probes : later.bind Call.probes = none) : pool.Turns later :=
    ⟨mints, fun session found => by rw [probes] at found; nomatch found⟩
  unfold resume
  cases waits : pool.calls call with
  | none =>
    have same : Function.update pool.calls call none = pool.calls := by
      rw [← waits, Function.update_eq_self]
    exact ⟨none, quiet none rfl rfl, same.symm, rfl⟩
  | some state =>
    cases state with
    | evicting opts => exact ⟨some (.creating opts), quiet _ rfl rfl, rfl, rfl⟩
    | creating opts =>
      refine ⟨none, quiet none rfl rfl, ?_⟩
      cases succeeds with
      | false => exact ⟨rfl, rfl⟩
      | true =>
        refine ⟨?_, created_shared config pool now opts⟩
        dsimp only [finish]
        rw [if_pos rfl, (created_frame config pool now opts).1]
    | resetting slot session opts =>
      cases succeeds with
      | true => exact ⟨none, quiet none rfl rfl, rfl, rfl⟩
      | false =>
        obtain ⟨calls, shared⟩ := destroySession_frame (pool.dropSlot (pool.entries slot).key)
          session
        refine ⟨some (.evicting opts), quiet _ rfl rfl, ?_, shared⟩
        dsimp only [await]
        rw [if_neg Bool.false_ne_true, calls, dropSlot]
    | probingWarm slot session platform identity =>
      cases succeeds with
      | true => exact ⟨none, quiet none rfl rfl, rfl, rfl⟩
      | false =>
        dsimp only
        rw [if_neg Bool.false_ne_true, notReady]
        rcases detachLeaseSafe_cases pool session detaches with none_ | ⟨context, -, detached⟩
        · rw [none_]
          refine ⟨some (.abandoning platform identity), quiet _ rfl rfl, ?_,
            (destroySession_frame _ _).2⟩
          dsimp only [await]
          rw [(destroySession_frame _ _).1]
          rfl
        · rw [detached]
          obtain ⟨later, turns, same⟩ := startShared_frame ({ pool with
            bound := Function.update pool.bound session none }.setEntry slot { pool.entries slot with
              sessionId := none, inUse := false, lastUsedAt := now, lease := some context }) call
                platform identity
          refine ⟨later, turns, ?_⟩
          dsimp only
          rw [same]
          exact ⟨rfl, rfl⟩
    | abandoning platform identity =>
      obtain ⟨later, turns, same⟩ := startShared_frame pool call platform identity
      refine ⟨later, turns, ?_⟩
      dsimp only
      rw [same]
      exact ⟨rfl, rfl⟩
    | probingShared platform identity serial stamp session =>
      cases succeeds with
      | true => exact ⟨none, quiet none rfl rfl, rfl, rfl⟩
      | false =>
        obtain ⟨later, turns, same⟩ := nextShared_frame pool call platform identity serial (stamp + 1)
        refine ⟨later, turns, ?_⟩
        dsimp only
        rw [if_neg Bool.false_ne_true, same]
        exact ⟨rfl, rfl⟩
    | releasing slot session lease =>
      obtain ⟨calls, shared⟩ := released_frame pool now slot session lease
      refine ⟨none, quiet none rfl rfl, ?_, shared⟩
      dsimp only [finish]
      rw [calls]
    | closing session =>
      obtain ⟨calls, shared⟩ := destroySession_frame pool session
      refine ⟨none, quiet none rfl rfl, ?_, shared⟩
      dsimp only [finish]
      rw [calls]

end Pool

end Klura
