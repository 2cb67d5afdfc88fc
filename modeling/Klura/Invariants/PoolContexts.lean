import Klura.Moves.PoolSessions
import Mathlib.Data.List.Induction

/-! Browser contexts are conserved: each one is held in one place until the driver destroys it. -/

namespace Klura

namespace Pool

variable {config : PoolOptions} {pool : Pool} {ledger : Ledger}

theorem sound_empty (config : PoolOptions) : empty.Sound config
    ⟨fun _ => none, fun _ => none, fun _ => none, fun _ => none⟩ := by
  constructor <;> simp [empty, OrderedMap.get?, work, live, OrderedMap.keys]

/-- The pool as a machine that is driven by events at their times. -/
def machine (config : PoolOptions) : Machine Pool (Nat × Event) where
  starts pool := pool = empty
  step before event after := (before.step config event.1 event.2).1 = after

/-! What holds of a pool that has been reached. -/

/-- Who holds a browser context. -/
inductive Holder where
  | registered (session : SessionId)
  | slot (key : WarmKey)
  | call (call : CallId)

/-- Whether a holder holds a context: a registered session that is bound to it, a slot the lease of
which it is, or a call that works on a session bound to it or carries it itself. -/
def Holds (pool : Pool) (context : ContextId) : Holder → Prop
  | .registered session => pool.sessions session = true ∧ pool.bound session = some context
  | .slot key => ∃ slot, OrderedMap.get? pool.warm key = some slot ∧
    (pool.entries slot).lease = some context
  | .call call => ∃ state, pool.calls call = some state ∧
    (state.lease = some context ∨ state.session.bind pool.bound = some context)

/-- Contexts that are held once, and serve the keys that they were created for. -/
structure Conserved (pool : Pool) : Prop where
  held : ∀ context, (pool.createdFor context).isSome = true → pool.handed context = false →
    ∃! holder, pool.Holds context holder
  slots : pool.warm.keys.Nodup
  sessions : ∀ session context, pool.bound session = some context →
    pool.createdFor context = some (pool.objects session).key
  leases : ∀ key slot context, OrderedMap.get? pool.warm key = some slot →
    (pool.entries slot).lease = some context → pool.createdFor context = some (some key)

/-- The contexts of a sound pool are conserved. -/
theorem Sound.conserved (sound : pool.Sound config ledger) : pool.Conserved where
  held context made kept := by
    have placed : (ledger.place context).isSome = true := by
      have alive := sound.live context
      rw [Pool.live, made, kept] at alive
      exact alive.symm
    obtain ⟨place, placed⟩ := Option.isSome_iff_exists.mp placed
    -- The ledger has one place, which tells what any holder would be.
    have only : ∀ holder, pool.Holds context holder →
        (∃ session, holder = .registered session ∧ place = .session session ∧
          ledger.worker session = none) ∨
        (∃ slot, holder = .slot (pool.entries slot).key ∧ place = .slot slot) ∨
        (∃ call session, holder = .call call ∧ place = .session session ∧
          ledger.worker session = some call) ∨
        ∃ call, holder = .call call ∧ place = .call call := by
      intro holder holds
      have at_ {other : Place} (own : ledger.place context = some other) : place = other :=
        Option.some.inj (placed.symm.trans own)
      cases holder with
      | registered session =>
        have own := sound.kept session (by rw [holds.2]; nofun)
        rw [holds.1] at own
        exact .inl ⟨session, rfl, at_ ((sound.bound session context).mpr holds.2),
          Option.isNone_iff_eq_none.mp own.symm⟩
      | slot key =>
        obtain ⟨slot, there, lease⟩ := holds
        have named := (sound.keyed key slot there).1
        subst named
        exact .inr (.inl ⟨slot, rfl, at_ ((sound.leased slot context).mpr ⟨there, lease⟩)⟩)
      | call call =>
        obtain ⟨state, waits, lease | bound⟩ := holds
        · have carries : work Call.lease pool.calls call = some context := by simp [work, waits, lease]
          exact .inr (.inr (.inr ⟨call, rfl, at_ ((sound.called call context).mpr carries)⟩))
        · obtain ⟨session, works, bound⟩ := Option.bind_eq_some_iff.mp bound
          have working : work Call.session pool.calls call = some session := by
            simp [work, waits, works]
          exact .inr (.inr (.inl ⟨call, session, rfl, at_ ((sound.bound session context).mpr bound),
            (sound.worker session call).mpr working⟩))
    obtain ⟨holder, holds⟩ : ∃ holder, pool.Holds context holder := by
      cases place with
      | session session =>
        have bound := (sound.bound session context).mp placed
        have kept := sound.kept session (by rw [bound]; nofun)
        cases works : ledger.worker session with
        | none =>
          rw [works] at kept
          exact ⟨.registered session, kept, bound⟩
        | some call =>
          obtain ⟨state, waits, working⟩ :=
            Option.bind_eq_some_iff.mp ((sound.worker session call).mp works)
          exact ⟨.call call, state, waits, .inr (by rw [working]; exact bound)⟩
      | slot slot =>
        obtain ⟨there, lease⟩ := (sound.leased slot context).mp placed
        exact ⟨.slot (pool.entries slot).key, slot, there, lease⟩
      | call call =>
        obtain ⟨state, waits, lease⟩ :=
          Option.bind_eq_some_iff.mp ((sound.called call context).mp placed)
        exact ⟨.call call, state, waits, .inl lease⟩
    refine ⟨holder, holds, fun other also => ?_⟩
    have first := only holder holds
    have second := only other also
    grind
  slots := sound.distinct
  sessions := sound.served
  leases key slot context there lease := by
    have named := (sound.keyed key slot there).1
    subst named
    exact sound.stocked slot context ((sound.leased slot context).mpr ⟨there, lease⟩)

/-! Runs without shared sessions lend nothing that is not shared. -/

/-- Whether an event shares no session. -/
def Event.Private : Event → Prop
  | .registerSharedSession .. | .dispose .. => False
  | _ => True

/-- No session is shared, and no call waits for the probe of a shared session. -/
structure Private (pool : Pool) : Prop where
  shared : ∀ platform, pool.shared platform = none
  calls : ∀ call, work Call.probes pool.calls call = none

theorem Private.goOn (alone : pool.Private) {after : Pool} (call : CallId) (later : Option Call)
    (quiet : later.bind Call.probes = none) (shared : after.shared = pool.shared)
    (calls : after.calls = Function.update pool.calls call later) : after.Private where
  shared platform := by rw [shared, alone.shared]
  calls other := by
    rw [calls, work_update, quiet]
    by_cases same : other = call
    · rw [same, Function.update_self]
    · rw [Function.update_of_ne same, alone.calls]

theorem startShared_none {platform : String} (none_ : pool.shared platform = none) (call : CallId)
    (identity : Option String) : pool.startShared call platform identity = pool.finish call := by
  rw [startShared, none_]

theorem Private.unshareOwn (alone : pool.Private) (session : SessionId) :
    pool.unshareOwn session = pool := by
  unfold Pool.unshareOwn
  split
  · rfl
  · rename_i platform _
    have same : (pool.shared platform).bind (fun bucket => bucket.without session) =
        pool.shared platform := by rw [alone.shared, Option.bind_none]
    rw [unshare, same, Function.update_eq_self]

/-- A step that shares no session leaves the pool private. -/
theorem Private.step (alone : pool.Private) (config : PoolOptions) (now : Nat) (event : Event)
    (event_ : event.Private) (distinct : pool.warm.keys.Nodup) :
    (pool.step config now event).1.Private := by
  have started : { pool with next := pool.next + 1 }.Private := ⟨alone.shared, alone.calls⟩
  cases event with
  | createSession opts attaches =>
    dsimp only [Pool.step, Pool.createSession]
    split
    · dsimp only [Pool.reuseWarm]
      split
      · exact alone.goOn _ _ rfl rfl rfl
      · split <;> exact alone.goOn _ _ rfl rfl rfl
    · exact alone.goOn _ _ rfl rfl rfl
  | tryCheckoutReadySession platform identity attaches =>
    dsimp only [Pool.step, Pool.tryCheckoutReadySession]
    rw [startShared_none (started.shared platform)]
    split
    · exact alone.goOn _ none rfl rfl rfl
    · split
      · exact alone.goOn _ none rfl rfl rfl
      · exact alone.goOn _ _ rfl rfl rfl
  | endDrive caller session detaches =>
    dsimp only [Pool.step, Pool.endDrive]
    rw [started.unshareOwn]
    split
    · exact started
    · split
      · split
        · exact ⟨alone.shared, alone.calls⟩
        · split
          · cases detaches <;> exact alone.goOn _ _ rfl rfl rfl
          · exact ⟨alone.shared, alone.calls⟩
      · split
        · exact alone.goOn _ _ rfl rfl rfl
        · rcases detachLeaseSafe_cases { pool with next := pool.next + 1 } session detaches with
            none_ | ⟨context, -, detached⟩
          · rw [none_]
            exact alone.goOn _ _ rfl rfl rfl
          · rw [detached]
            exact ⟨alone.shared, alone.calls⟩
  | resume call succeeds detaches =>
    obtain ⟨later, turns, calls, shared⟩ := resume_frame config pool now call succeeds detaches
    refine alone.goOn call later ?_ shared calls
    -- A probe would be that of a session in a bucket, of which there is none.
    cases probes : later.bind Call.probes with
    | none => rfl
    | some session =>
      obtain ⟨platform, bucket, found, -⟩ := turns.2 session probes
      rw [alone.shared] at found
      nomatch found
  | sweep =>
    obtain ⟨warm, handed, same, -⟩ := evictions_frame (sweep_evicts config now distinct)
    dsimp only [Pool.step]
    rw [same]
    exact ⟨alone.shared, alone.calls⟩
  | registerSharedSession session platform => exact event_.elim
  | dispose session platform => exact event_.elim

theorem Private.lends (alone : pool.Private) {event : Event} (event_ : event.Private) :
    pool.Lends event := by
  cases event with
  | resume call succeeds detaches =>
    have quiet := alone.calls call
    dsimp only [Lends]
    split
    · rename_i waits
      rw [work, waits] at quiet
      cases quiet
    · trivial
  | registerSharedSession session platform => trivial
  | dispose session platform => exact event_.elim
  | _ => trivial

/-! The pool over whole runs. -/

theorem reached_sound {allowed : Pool → Nat × Event → Prop}
    (lends : ∀ pool event, allowed pool event → pool.Lends event.2)
    (reached : (machine config).Reaches allowed pool) : ∃ ledger, pool.Sound config ledger := by
  induction reached with
  | start starts =>
    cases starts
    exact ⟨_, sound_empty config⟩
  | @next before after event _ allows steps ih =>
    obtain ⟨ledger, sound⟩ := ih
    cases steps
    exact sound.step event.1 event.2 (lends before event allows)

theorem reached_bounded (limited : config.warmMax ≠ 0) (reached : (machine config).Reaches
    (fun pool event => pool.Lends event.2 ∧ pool.Roomy config event.2) pool) :
    pool.warm.length ≤ config.warmMax := by
  -- The run keeps the pool sound as well, since the slots of a step are those of a sound pool.
  have kept : (∃ ledger, pool.Sound config ledger) ∧ pool.warm.length ≤ config.warmMax := by
    induction reached with
    | start starts =>
      cases starts
      exact ⟨⟨_, sound_empty config⟩, Nat.zero_le _⟩
    | @next before after event _ allows steps ih =>
      obtain ⟨⟨ledger, sound⟩, bounded⟩ := ih
      cases steps
      exact ⟨sound.step event.1 event.2 allows.1,
        (sound.step_slots event.1 event.2).bounded allows.2 limited bounded⟩
  exact kept.2

theorem reached_private {condition : Pool → Nat × Event → Prop}
    (reached : (machine config).Reaches
      (fun pool event => event.2.Private ∧ condition pool event) pool) :
    (machine config).Reaches (fun pool event => pool.Lends event.2 ∧ condition pool event) pool := by
  have kept : (machine config).Reaches
      (fun pool event => pool.Lends event.2 ∧ condition pool event) pool ∧ pool.Private := by
    induction reached with
    | start starts =>
      refine ⟨.start starts, ?_⟩
      cases starts
      exact ⟨fun _ => rfl, fun _ => rfl⟩
    | @next before after event _ allows steps ih =>
      obtain ⟨reached, alone⟩ := ih
      obtain ⟨ledger, sound⟩ := reached_sound (fun _ _ allows => allows.1) reached
      refine ⟨.next reached ⟨alone.lends allows.1, allows.2⟩ steps, ?_⟩
      cases steps
      exact alone.step config event.1 event.2 allows.1 sound.distinct
  exact kept.1

/-- What events make of an empty pool, one after the other at the time zero. -/
def after (config : PoolOptions) (events : List Event) : Pool :=
  events.foldl (fun pool event => (pool.step config 0 event).1) empty

theorem after_reached (config : PoolOptions) (events : List Event)
    (alone : ∀ event ∈ events, event.Private) :
    (machine config).Reaches (fun _ event => event.2.Private) (after config events) := by
  -- The induction takes the last event off, which is one more step.
  induction events using List.reverseRecOn with
  | nil => exact .start rfl
  | append_singleton earlier event ih =>
    have reached := ih fun other member => alone other (List.mem_append_left _ member)
    have steps : (machine config).step (after config earlier) (0, event)
        (after config (earlier ++ [event])) := by
      simp only [machine, after, List.foldl_append, List.foldl_cons, List.foldl_nil]
    exact .next reached (alone event (by simp)) steps

/-- A pool with one slot. -/
def oneSlot : PoolOptions := ⟨true, 1, 0⟩

/-- A session for a platform. -/
def sessionFor (platform : String) : SessionOptions :=
  ⟨some platform, none, false, ⟨none, none, false, false⟩⟩

end Pool

end Klura
