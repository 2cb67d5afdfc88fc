import Klura.Moves.PoolSessions

/-! What the steps of the pool return, and where the sessions in it come from. -/

namespace Klura

namespace Pool

variable {config : PoolOptions} {pool : Pool} {ledger : Ledger} {session : SessionId}

/-- A session that is new: nobody has had it, and it has a context. -/
structure Fresh (before after : Pool) (session : SessionId) : Prop where
  later : before.next ≤ session.number
  free : (after.objects session).borrowed = false
  bound : after.bound session ≠ none

variable {call : CallId}

variable {after : Pool} {other : CallId}

theorem begun_minted (later : Option Call)
    (calls : after.calls = Function.update pool.calls other later)
    (fresh : later.bind Call.minted = some session → Fresh pool after session)
    (mints : work Call.minted after.calls call = some session) :
    work Call.minted pool.calls call = some session ∨ Fresh pool after session := by
  rw [calls, work_update] at mints
  by_cases own : call = other
  · rw [own, Function.update_self] at mints
    exact .inr (fresh mints)
  · rw [Function.update_of_ne own] at mints
    exact .inl mints

theorem createSession_minted (config : PoolOptions) (now : Nat) (opts : SessionOptions)
    (attaches : Bool)
    (mints : work Call.minted (pool.createSession config now opts attaches).calls call = some session) :
    work Call.minted pool.calls call = some session ∨
        Fresh pool (pool.createSession config now opts attaches) session := by
  unfold createSession at mints ⊢
  dsimp only at mints ⊢
  split at mints
  · unfold reuseWarm at mints ⊢
    dsimp only at mints ⊢
    split at mints
    · rename_i differs
      rw [if_pos differs]
      exact begun_minted _ rfl (by rintro ⟨⟩) mints
    · rename_i same
      rw [if_neg same]
      split at mints
      · rename_i attached
        rw [if_pos attached]
        refine begun_minted _ rfl ?_ mints
        rintro ⟨⟩
        exact ⟨Nat.le_succ _, by simp [await, mintSession], by simp [await]⟩
      · rename_i refused
        rw [if_neg refused]
        exact begun_minted _ rfl (by rintro ⟨⟩) mints
  · exact begun_minted _ rfl (by rintro ⟨⟩) mints

theorem tryCheckoutReadySession_minted (config : PoolOptions) (now : Nat) (platform : String)
    (identity : Option String) (attaches : Bool)
    (mints : work Call.minted (pool.tryCheckoutReadySession config now platform identity attaches).calls call = some session) :
    work Call.minted pool.calls call = some session ∨
        Fresh pool (pool.tryCheckoutReadySession config now platform identity attaches) session := by
  obtain ⟨later, turns, same⟩ := startShared_frame { pool with next := pool.next + 1 } ⟨pool.next⟩
    platform identity
  have turned : later.bind Call.minted = some session → False := by
    rw [turns.1]
    nofun
  unfold tryCheckoutReadySession at mints ⊢
  dsimp only at mints ⊢
  rw [same] at mints ⊢
  split at mints
  · exact begun_minted _ rfl (fun mints => (turned mints).elim) mints
  · split at mints
    · rename_i refused
      rw [if_pos refused]
      exact begun_minted _ rfl (fun mints => (turned mints).elim) mints
    · rename_i claimed
      rw [if_neg claimed]
      refine begun_minted _ rfl ?_ mints
      rintro ⟨⟩
      exact ⟨Nat.le_succ _, by simp [await, mintSession], by simp [await]⟩

theorem endDrive_calls (config : PoolOptions) (pool : Pool) (now : Nat) (session : SessionId)
    (detaches : Bool) : ∃ later, later.bind Call.minted = none ∧ later.bind Call.probes = none ∧
      ((pool.endDrive config now session detaches).calls =
        Function.update pool.calls ⟨pool.next⟩ later ∨
          (pool.endDrive config now session detaches).calls = pool.calls) := by
  have unshared : ({ pool with next := pool.next + 1 }.unshareOwn session).calls = pool.calls := by
    unfold unshareOwn
    split <;> rfl
  unfold endDrive
  dsimp only
  split
  · exact ⟨none, rfl, rfl, .inr rfl⟩
  split
  · split
    · exact ⟨none, rfl, rfl, .inr rfl⟩
    · split
      · cases detaches <;> exact ⟨some (.releasing _ _ _), rfl, rfl, .inl rfl⟩
      · exact ⟨none, rfl, rfl, .inr rfl⟩
  · split
    · refine ⟨some (.closing session), rfl, rfl, .inl ?_⟩
      dsimp only [await, unregister]
      rw [unshared]
    · rcases detachLeaseSafe_cases ({ pool with next := pool.next + 1 }.unshareOwn session) session
        detaches with kept | ⟨context, -, detached⟩
      · rw [kept]
        refine ⟨some (.closing session), rfl, rfl, .inl ?_⟩
        dsimp only [await, unregister, dropSlot]
        rw [unshared]
      · rw [detached]
        exact ⟨none, rfl, rfl, .inr unshared⟩

/-- A session that a call is about to hand out is new, or another call has gone on. -/
theorem step_minted (config : PoolOptions) (now : Nat) (event : Event)
    (distinct : pool.warm.keys.Nodup)
    (mints : work Call.minted (pool.step config now event).1.calls call = some session) :
    (work Call.minted pool.calls call = some session ∧ call ∉ event.resumed) ∨
      Fresh pool (pool.step config now event).1 session := by
  cases event with
  | createSession opts attaches =>
    exact (createSession_minted config now opts attaches mints).imp_left fun old => ⟨old, nofun⟩
  | tryCheckoutReadySession platform identity attaches =>
    exact (tryCheckoutReadySession_minted config now platform identity attaches mints).imp_left
      fun old => ⟨old, nofun⟩
  | endDrive caller other detaches =>
    obtain ⟨later, quiet, -, calls | calls⟩ := endDrive_calls config pool now other detaches
    · refine (begun_minted later calls ?_ mints).imp_left fun old => ⟨old, nofun⟩
      rw [quiet]
      nofun
    · dsimp only [step] at mints
      rw [calls] at mints
      exact .inl ⟨mints, nofun⟩
  | resume other succeeds detaches =>
    obtain ⟨later, turns, calls, -⟩ := resume_frame config pool now other succeeds detaches
    dsimp only [step] at mints
    rw [calls, work_update, turns.1] at mints
    have differs : call ≠ other := by
      rintro rfl
      rw [Function.update_self] at mints
      nomatch mints
    rw [Function.update_of_ne differs] at mints
    exact .inl ⟨mints, fun same => differs (Option.some.inj same).symm⟩
  | sweep =>
    obtain ⟨warm, handed, same, -⟩ := evictions_frame (sweep_evicts config now distinct)
    dsimp only [step] at mints
    rw [same] at mints
    exact .inl ⟨mints, nofun⟩
  | registerSharedSession other platform =>
    obtain ⟨shared, next, later, same⟩ := registerSharedSession_frame pool other platform
    dsimp only [step] at mints
    rw [same] at mints
    exact .inl ⟨mints, nofun⟩
  | dispose other platform => exact .inl ⟨mints, nofun⟩

/-- Whether a session is in a bucket. -/
def Offered (pool : Pool) (session : SessionId) : Prop :=
  ∃ platform bucket, pool.shared platform = some bucket ∧ session ∈ bucket.members.map Prod.snd

theorem begun_probes (later : Option Call)
    (calls : after.calls = Function.update pool.calls other later)
    (offered : later.bind Call.probes = some session → pool.Offered session)
    (probes : work Call.probes after.calls call = some session) :
    work Call.probes pool.calls call = some session ∨ pool.Offered session := by
  rw [calls, work_update] at probes
  by_cases own : call = other
  · rw [own, Function.update_self] at probes
    exact .inr (offered probes)
  · rw [Function.update_of_ne own] at probes
    exact .inl probes

theorem begun_quiet {calls : CallId → Option Call} (later : Option Call)
    (same : calls = Function.update pool.calls other later) (quiet : later.bind Call.probes = none)
    (probes : work Call.probes calls call = some session) :
    work Call.probes pool.calls call = some session := by
  rw [same, work_update, quiet] at probes
  by_cases own : call = other
  · rw [own, Function.update_self] at probes
    nomatch probes
  · rw [Function.update_of_ne own] at probes
    exact probes

/-- A shared session that a call waits for the probe of has been offered. -/
theorem step_probes (config : PoolOptions) (now : Nat) (event : Event)
    (distinct : pool.warm.keys.Nodup)
    (probes : work Call.probes (pool.step config now event).1.calls call = some session) :
    work Call.probes pool.calls call = some session ∨ pool.Offered session := by
  cases event with
  | createSession opts attaches =>
    dsimp only [step, createSession] at probes
    split at probes
    · dsimp only [reuseWarm] at probes
      split at probes
      · exact .inl (begun_quiet _ rfl rfl probes)
      · split at probes <;> exact .inl (begun_quiet _ rfl rfl probes)
    · exact .inl (begun_quiet _ rfl rfl probes)
  | tryCheckoutReadySession platform identity attaches =>
    obtain ⟨later, turns, same⟩ := startShared_frame { pool with next := pool.next + 1 }
      ⟨pool.next⟩ platform identity
    dsimp only [step, tryCheckoutReadySession] at probes
    rw [same] at probes
    split at probes
    · exact begun_probes later rfl (turns.2 session) probes
    · split at probes
      · exact begun_probes later rfl (turns.2 session) probes
      · exact .inl (begun_quiet _ rfl rfl probes)
  | endDrive caller other detaches =>
    obtain ⟨later, -, quiet, calls | calls⟩ := endDrive_calls config pool now other detaches
    · exact .inl (begun_quiet later calls quiet probes)
    · dsimp only [step] at probes
      rw [calls] at probes
      exact .inl probes
  | resume other succeeds detaches =>
    obtain ⟨later, turns, calls, -⟩ := resume_frame config pool now other succeeds detaches
    exact begun_probes later calls (turns.2 session) probes
  | sweep =>
    obtain ⟨warm, handed, same, -⟩ := evictions_frame (sweep_evicts config now distinct)
    dsimp only [step] at probes
    rw [same] at probes
    exact .inl probes
  | registerSharedSession other platform =>
    obtain ⟨shared, next, later, same⟩ := registerSharedSession_frame pool other platform
    dsimp only [step] at probes
    rw [same] at probes
    exact .inl probes
  | dispose other platform => exact .inl probes

variable {platform : String}

theorem offered_unshare {other : SessionId}
    (offered : (pool.unshare other platform).Offered session) : pool.Offered session := by
  obtain ⟨own, bucket, found, member⟩ := offered
  by_cases same : own = platform
  · subst same
    have found : (pool.shared own).bind (fun bucket => bucket.without other) = some bucket := by
      dsimp only [unshare] at found
      rwa [Function.update_self] at found
    obtain ⟨before, there, without⟩ := Option.bind_eq_some_iff.mp found
    obtain ⟨entry, kept, same⟩ := List.mem_map.mp member
    -- The members that are left were members before.
    have earlier : entry ∈ before.members := by
      unfold Bucket.without at without
      dsimp only at without
      split at without
      · nomatch without
      · cases without
        exact (List.mem_filter.mp kept).1
    exact ⟨own, before, there, List.mem_map.mpr ⟨entry, earlier, same⟩⟩
  · have found : pool.shared own = some bucket :=
      (Function.update_of_ne same _ _).symm.trans found
    exact ⟨own, bucket, found, member⟩

theorem offered_congr (shared : after.shared = pool.shared) (offered : after.Offered session) :
    pool.Offered session := by
  rw [Offered, shared] at offered
  exact offered

/-- A session that is offered has been offered before, or it is shared now. -/
theorem step_offered (config : PoolOptions) (now : Nat) (event : Event)
    (distinct : pool.warm.keys.Nodup) (offered : (pool.step config now event).1.Offered session) :
    pool.Offered session ∨ ∃ platform, event = .registerSharedSession session platform := by
  cases event with
  | createSession opts attaches =>
    refine .inl (offered_congr ?_ offered)
    dsimp only [step, createSession]
    split
    · dsimp only [reuseWarm]
      split
      · rfl
      · split <;> rfl
    · rfl
  | tryCheckoutReadySession platform identity attaches =>
    obtain ⟨later, turns, same⟩ := startShared_frame { pool with next := pool.next + 1 }
      ⟨pool.next⟩ platform identity
    refine .inl (offered_congr ?_ offered)
    dsimp only [step, tryCheckoutReadySession]
    rw [same]
    split
    · rfl
    · split <;> rfl
  | endDrive caller other detaches =>
    left
    dsimp only [step, endDrive] at offered
    have taken : ({ pool with next := pool.next + 1 }.unshareOwn other).Offered session →
        pool.Offered session := by
      unfold unshareOwn
      split
      · exact offered_congr rfl
      · exact fun offered => offered_congr rfl (offered_unshare offered)
    split at offered
    · exact offered_congr rfl offered
    split at offered
    · refine offered_congr ?_ offered
      split
      · rfl
      · split
        · cases detaches <;> rfl
        · rfl
    · refine taken (offered_congr ?_ offered)
      split
      · rfl
      · rcases detachLeaseSafe_cases ({ pool with next := pool.next + 1 }.unshareOwn other) other
          detaches with kept | ⟨context, -, detached⟩
        · rw [kept]
          rfl
        · rw [detached]
          rfl
  | resume other succeeds detaches =>
    obtain ⟨later, turns, -, shared⟩ := resume_frame config pool now other succeeds detaches
    exact .inl (offered_congr shared offered)
  | sweep =>
    obtain ⟨warm, handed, same, -⟩ := evictions_frame (sweep_evicts config now distinct)
    dsimp only [step] at offered
    rw [same] at offered
    exact .inl offered
  | registerSharedSession other platform =>
    dsimp only [step, registerSharedSession] at offered
    split at offered
    · exact .inl offered
    · obtain ⟨own, bucket, found, member⟩ := offered
      by_cases same : own = platform
      · subst same
        have found := (Function.update_self _ _ _).symm.trans found
        cases found
        rw [List.map_append, List.mem_append] at member
        rcases member with old | new
        · left
          cases before : pool.shared own with
          | none =>
            rw [before] at old
            nomatch old
          | some bucket =>
            rw [before] at old
            exact ⟨own, bucket, before, old⟩
        · right
          have same := List.mem_singleton.mp new
          subst same
          exact ⟨own, rfl⟩
      · have found := (Function.update_of_ne same _ _).symm.trans found
        exact .inl ⟨own, bucket, found, member⟩
  | dispose other platform => exact .inl (offered_unshare offered)

theorem destroySession_next (pool : Pool) (session : SessionId) :
    (pool.destroySession session).next = pool.next := by
  unfold destroySession
  split <;> rfl

/-- No number is given back by a call that goes on. -/
theorem resume_next (config : PoolOptions) (pool : Pool) (now : Nat) (call : CallId)
    (succeeds detaches : Bool) :
    pool.next ≤ (pool.resume config now call succeeds detaches).1.next := by
  unfold resume
  cases pool.calls call with
  | none => exact Nat.le_refl _
  | some state =>
    cases state with
    | evicting opts => exact Nat.le_refl _
    | creating opts =>
      cases succeeds with
      | false => exact Nat.le_refl _
      | true => exact (created_frame config pool now opts).2
    | resetting slot session opts =>
      cases succeeds with
      | true => exact Nat.le_refl _
      | false =>
        have kept := destroySession_next (pool.dropSlot (pool.entries slot).key) session
        exact Nat.le_of_eq kept.symm
    | probingWarm slot session platform identity =>
      cases succeeds with
      | true => exact Nat.le_refl _
      | false =>
        dsimp only
        rw [if_neg Bool.false_ne_true, notReady]
        rcases detachLeaseSafe_cases pool session detaches with none_ | ⟨context, -, detached⟩
        · rw [none_]
          have kept := destroySession_next ((pool.setEntry slot { pool.entries slot with
            sessionId := none, inUse := false, lastUsedAt := now, lease := none }).dropSlot
              (warmKey platform identity)) session
          exact Nat.le_of_eq kept.symm
        · rw [detached]
          dsimp only
          obtain ⟨later, -, same⟩ := startShared_frame ({ pool with
            bound := Function.update pool.bound session none }.setEntry slot { pool.entries slot with
              sessionId := none, inUse := false, lastUsedAt := now, lease := some context }) call
                platform identity
          rw [same]
          exact Nat.le_refl _
    | abandoning platform identity =>
      obtain ⟨later, -, same⟩ := startShared_frame pool call platform identity
      dsimp only
      refine Nat.le_of_eq ?_
      rw [same]
    | probingShared platform identity serial stamp session =>
      cases succeeds with
      | true => exact Nat.le_refl _
      | false =>
        obtain ⟨later, -, same⟩ := nextShared_frame pool call platform identity serial (stamp + 1)
        dsimp only
        refine Nat.le_of_eq ?_
        rw [if_neg Bool.false_ne_true, same]
    | releasing slot session lease =>
      cases lease with
      | some context => exact Nat.le_refl _
      | none =>
        dsimp only [released, finish]
        cases (pool.objects session).key with
        | none => exact Nat.le_of_eq (destroySession_next pool session).symm
        | some key => exact Nat.le_of_eq (destroySession_next (pool.dropSlot key) session).symm
    | closing session => exact Nat.le_of_eq (destroySession_next pool session).symm

/-- No number is given back. -/
theorem step_next (config : PoolOptions) (now : Nat) (event : Event)
    (distinct : pool.warm.keys.Nodup) : pool.next ≤ (pool.step config now event).1.next := by
  cases event with
  | createSession opts attaches =>
    dsimp only [step, createSession]
    split
    · dsimp only [reuseWarm]
      split
      · exact Nat.le_succ _
      · split
        · exact Nat.le_add_right _ 2
        · exact Nat.le_succ _
    · exact Nat.le_succ _
  | tryCheckoutReadySession platform identity attaches =>
    obtain ⟨later, -, same⟩ := startShared_frame { pool with next := pool.next + 1 }
      ⟨pool.next⟩ platform identity
    dsimp only [step, tryCheckoutReadySession]
    rw [same]
    split
    · exact Nat.le_succ _
    · split
      · exact Nat.le_succ _
      · exact Nat.le_add_right _ 2
  | endDrive caller other detaches =>
    have unshared : pool.next ≤ ({ pool with next := pool.next + 1 }.unshareOwn other).next := by
      unfold unshareOwn
      split <;> exact Nat.le_succ _
    dsimp only [step, endDrive]
    split
    · exact Nat.le_succ _
    split
    · split
      · exact Nat.le_succ _
      · split
        · cases detaches <;> exact Nat.le_succ _
        · exact Nat.le_succ _
    · split
      · exact unshared
      · rcases detachLeaseSafe_cases ({ pool with next := pool.next + 1 }.unshareOwn other) other
          detaches with kept | ⟨context, -, detached⟩
        · rw [kept]
          exact unshared
        · rw [detached]
          exact unshared
  | resume call succeeds detaches => exact resume_next config pool now call succeeds detaches
  | sweep =>
    obtain ⟨warm, handed, same, -⟩ := evictions_frame (sweep_evicts config now distinct)
    dsimp only [step]
    refine Nat.le_of_eq ?_
    rw [same]
  | registerSharedSession other platform =>
    obtain ⟨shared, next, later, same⟩ := registerSharedSession_frame pool other platform
    dsimp only [step]
    rw [same]
    exact later
  | dispose other platform => exact Nat.le_refl _

/-- A session that is returned to its owner is registered, and it is new or the one that has been
reset. -/
theorem resume_created (config : PoolOptions) (now : Nat) (call : CallId)
    (succeeds detaches : Bool) (returned : (pool.resume config now call succeeds detaches).2 =
      some (.created session)) :
    (pool.resume config now call succeeds detaches).1.sessions session = true ∧
      (Fresh pool (pool.resume config now call succeeds detaches).1 session ∨
        work Call.minted pool.calls call = some session ∧
        (pool.resume config now call succeeds detaches).1.objects session = pool.objects session ∧
        (pool.resume config now call succeeds detaches).1.bound session = pool.bound session) := by
  unfold resume at returned ⊢
  cases waits : pool.calls call with
  | none =>
    rw [waits] at returned
    cases returned
  | some state =>
    rw [waits] at returned
    cases state with
    | creating opts =>
      cases succeeds with
      | false => cases returned
      | true =>
        cases returned
        dsimp only [finish]
        rw [if_pos rfl]
        -- What the driver has created stays as it is while room is made for its slot.
        have registered : (pool.created config now opts).sessions ⟨pool.next⟩ = true ∧
            (pool.created config now opts).objects ⟨pool.next⟩ =
              mintSession opts.platform opts.identity ∧
            (pool.created config now opts).bound ⟨pool.next⟩ = some ⟨pool.next⟩ := by
          unfold created
          dsimp only
          split
          · simp [register]
          · split
            · simp [register]
            · obtain ⟨warm, handed, same, -⟩ := evictions_frame (evictIfNeeded_evicts config
                ({ pool with
                  objects := Function.update pool.objects ⟨pool.next⟩
                    (mintSession opts.platform opts.identity)
                  bound := Function.update pool.bound ⟨pool.next⟩ (some ⟨pool.next⟩)
                  createdFor := Function.update pool.createdFor ⟨pool.next⟩ (some opts.key)
                  next := pool.next + 1 }.register ⟨pool.next⟩))
              rw [same]
              simp [register, setEntry]
        obtain ⟨known, object, bound⟩ := registered
        refine ⟨known, .inl ⟨Nat.le_refl _, ?_, ?_⟩⟩
        · dsimp only
          rw [object, mintSession]
        · dsimp only
          rw [bound]
          rintro ⟨⟩
    | resetting slot other opts =>
      cases succeeds with
      | true =>
        cases returned
        refine ⟨Function.update_self _ _ _, .inr ⟨?_, rfl, rfl⟩⟩
        simp [work, waits, Call.minted]
      | false => cases returned
    | probingWarm slot other platform identity => cases succeeds <;> cases returned
    | probingShared platform identity serial stamp other => cases succeeds <;> cases returned
    | _ => cases returned

/-- A session that is checked out is one that a probe has waited for, of a slot's context or of a
shared session. -/
theorem resume_checkedOut (config : PoolOptions) (now : Nat) (call : CallId)
    (succeeds detaches : Bool) {identity : Option String}
    (returned : (pool.resume config now call succeeds detaches).2 = some (.checkedOut platform identity session)) :
    succeeds = true ∧
      ((∃ slot, pool.calls call = some (.probingWarm slot session platform identity)) ∨
        ∃ serial stamp, pool.calls call =
          some (.probingShared platform identity serial stamp session)) ∧
      (pool.resume config now call succeeds detaches).1.objects session =
        { pool.objects session with borrowed := true } ∧
      (pool.resume config now call succeeds detaches).1.bound session = pool.bound session ∧
      (pool.resume config now call succeeds detaches).1.createdFor = pool.createdFor := by
  unfold resume at returned ⊢
  cases waits : pool.calls call with
  | none =>
    rw [waits] at returned
    nomatch returned
  | some state =>
    rw [waits] at returned
    cases state with
    | creating opts => cases succeeds <;> nomatch returned
    | resetting slot other opts => cases succeeds <;> nomatch returned
    | probingWarm slot other platform identity =>
      cases succeeds with
      | true =>
        cases returned
        exact ⟨rfl, .inl ⟨slot, rfl⟩, Function.update_self _ _ _, rfl, rfl⟩
      | false => nomatch returned
    | probingShared platform identity serial stamp other =>
      cases succeeds with
      | true =>
        cases returned
        exact ⟨rfl, .inr ⟨serial, stamp, rfl⟩, Function.update_self _ _ _, rfl, rfl⟩
      | false => nomatch returned
    | _ => nomatch returned

end Pool

end Klura
