import Klura.Cache.JsEval

/-! What is cancelled stays cancelled, as long as no refresh outlives its own schedule. -/

namespace Klura

theorem countP_filter_lt {α : Type} {members : List α} {kind keep : α → Bool} {member : α}
    (among : member ∈ members) (its : kind member = true) (out : keep member = false) :
    (members.filter keep).countP kind < members.countP kind := by
  have split := List.countP_eq_countP_filter_add members kind keep
  have some : 0 < (members.filter fun other => !keep other).countP kind :=
    List.countP_pos_iff.mpr ⟨member, List.mem_filter.mpr ⟨among, by simp [out]⟩, its⟩
  omega

namespace JsEval

/-- Whether a timer is one of a prerequisite's. -/
def Armed.on (timer : Armed) (platform bindsTo : String) : Bool :=
  timer.opts.platform = platform ∧ timer.opts.bindsTo = bindsTo

/-- Whether a tick is one of a prerequisite's. -/
def Tick.on (tick : Tick) (platform bindsTo : String) : Bool :=
  tick.opts.platform = platform ∧ tick.opts.bindsTo = bindsTo

namespace World

/-- Whether a prerequisite is scheduled. -/
def scheduled (world : World) (platform bindsTo : String) : Bool :=
  (world.impl.timers.get? platform bindsTo).isSome

/-- How many timer chains a prerequisite has: its armed timers, and its refreshes in flight that arm
a timer again if they end now, which those of a scheduled prerequisite do. -/
def chains (world : World) (platform bindsTo : String) : Nat :=
  world.armed.countP (·.on platform bindsTo) +
    if world.scheduled platform bindsTo then world.inFlight.countP (·.on platform bindsTo) else 0

/-- Whether the whole cache was shut down. -/
def wasShutDown (world : World) : Prop := ∃ moment, (moment, Cancelled.everything) ∈ world.cancels

/-- Whether a prerequisite was cancelled after some moment. -/
def cancelledSince (world : World) (startedAt : Nat) (platform bindsTo : String) : Prop :=
  ∃ moment scope, (moment, scope) ∈ world.cancels ∧ scope.covers platform bindsTo = true ∧
    startedAt < moment

/-- What cancelling promises. -/
structure StaysCancelled (world : World) : Prop where
  /-- What the cache returns was not refreshed by what was started before a cancellation. -/
  fresh : ∀ platform bindsTo entry startedAt, world.impl.get platform bindsTo = some entry →
    entry.origin = .refresh startedAt → ¬ world.cancelledSince startedAt platform bindsTo
  /-- A prerequisite has one timer chain at most. -/
  single : ∀ platform bindsTo, world.chains platform bindsTo ≤ 1
  /-- Nothing is armed after the shutdown. -/
  silent : world.wasShutDown → world.armed = []

/-- Whether no refresh outlives its schedule here: a prerequisite that is not scheduled is scheduled
only while none of its refreshes is in flight and before any shutdown, and a refresh returns a value
only if its prerequisite was not cancelled since it was started. -/
def outlivesNothing (world : World) : Event → Prop
  | .schedule opts _ => world.scheduled opts.platform opts.bindsTo = false →
      (∀ tick ∈ world.inFlight, tick.on opts.platform opts.bindsTo = false) ∧ ¬ world.wasShutDown
  | .refreshed handle _ _ _ => ∀ tick, world.tickOf handle = some tick →
      ¬ world.cancelledSince tick.startedAt tick.opts.platform tick.opts.bindsTo
  | _ => True

/-- What holds as long as no refresh outlives its schedule. -/
structure Consistent (world : World) : Prop extends StaysCancelled world where
  /-- Each armed timer is the one of its prerequisite's schedule. -/
  owned : ∀ timer ∈ world.armed, ∃ entry,
    world.impl.timers.get? timer.opts.platform timer.opts.bindsTo = some entry ∧
      entry.handle = timer.handle
  /-- Nothing is scheduled after the shutdown. -/
  closed : world.wasShutDown → ∀ platform bindsTo, world.scheduled platform bindsTo = false


variable {world : World}

variable {timer : Armed}

theorem Consistent.scheduled_of_armed (consistent : world.Consistent) (armed : timer ∈ world.armed) :
    world.scheduled timer.opts.platform timer.opts.bindsTo = true := by
  obtain ⟨entry, found, -⟩ := consistent.owned timer armed
  simp [scheduled, found]

theorem Consistent.unarmed (consistent : world.Consistent) {platform bindsTo : String}
    (absent : world.scheduled platform bindsTo = false) :
    world.armed.countP (·.on platform bindsTo) = 0 := by
  refine List.countP_eq_zero.mpr fun timer armed on => ?_
  simp only [Armed.on, decide_eq_true_eq] at on
  have present := consistent.scheduled_of_armed armed
  rw [on.1, on.2, absent] at present
  exact absurd present (by simp)

theorem Consistent.later {world : World} (consistent : world.Consistent) (moment : Nat) :
    ({ world with moment } : World).Consistent :=
  ⟨⟨consistent.fresh, consistent.single, consistent.silent⟩, consistent.owned, consistent.closed⟩

theorem Consistent.put (consistent : world.Consistent) (platform bindsTo : String)
    (entry : JsEvalCacheEntry)
    (since : ∀ startedAt, entry.origin = .refresh startedAt → ¬ world.cancelledSince startedAt platform bindsTo) :
    ({ world with impl := { world.impl with
        cache := world.impl.cache.put platform bindsTo entry } } : World).Consistent := by
  refine ⟨⟨?_, consistent.single, consistent.silent⟩, consistent.owned, consistent.closed⟩
  intro platform' bindsTo' found startedAt cached origin
  -- The entry is the stored one, or one that was there before.
  by_cases same : platform' = platform ∧ bindsTo' = bindsTo
  · obtain ⟨rfl, rfl⟩ := same
    simp only [JsEvalCacheImpl.get, NestedMap.get?_put_self, Option.some.injEq] at cached
    subst cached
    exact since startedAt origin
  · have apart : platform' = platform → bindsTo' ≠ bindsTo := fun first second =>
      same ⟨first, second⟩
    simp only [JsEvalCacheImpl.get, NestedMap.get?_put_of_ne _ _ apart] at cached
    exact consistent.fresh _ _ found startedAt cached origin

theorem chains_mono {world after : World} {platform bindsTo : String}
    (armed : after.armed.countP (·.on platform bindsTo) ≤
      world.armed.countP (·.on platform bindsTo))
    (flying : after.inFlight.countP (·.on platform bindsTo) ≤
      world.inFlight.countP (·.on platform bindsTo))
    (scheduled : after.scheduled platform bindsTo = true →
      world.scheduled platform bindsTo = true) :
    after.chains platform bindsTo ≤ world.chains platform bindsTo := by
  unfold chains
  by_cases held : after.scheduled platform bindsTo = true
  · rw [if_pos held, if_pos (scheduled held)]
    omega
  · rw [if_neg held]
    omega

theorem Consistent.land (consistent : world.Consistent) (tick : Tick) :
    (world.land tick).Consistent := by
  refine ⟨⟨consistent.fresh, ?_, consistent.silent⟩, consistent.owned, consistent.closed⟩
  intro platform bindsTo
  have before := consistent.single platform bindsTo
  refine Nat.le_trans (@chains_mono world _ platform bindsTo (Nat.le_refl _) ?_ id) before
  exact List.filter_sublist.countP_le

/-- A timer can be armed for a prerequisite without a chain, unless all was shut down. -/
theorem Consistent.arm (consistent : world.Consistent) (opts : ScheduleOpts)
    (entryOpts : ScheduleOpts) (offset : Int) (opened : ¬ world.wasShutDown)
    (unarmed : world.armed.countP (·.on opts.platform opts.bindsTo) = 0)
    (landed : world.inFlight.countP (·.on opts.platform opts.bindsTo) = 0) :
    (world.arm opts entryOpts offset).Consistent := by
  refine ⟨⟨consistent.fresh, ?_, fun shut => absurd shut opened⟩, ?_, fun shut => absurd shut opened⟩
  · intro platform bindsTo
    by_cases same : platform = opts.platform ∧ bindsTo = opts.bindsTo
    · -- The new timer is the one chain of its prerequisite.
      obtain ⟨rfl, rfl⟩ := same
      simp only [chains, World.arm, List.countP_cons, unarmed, landed]
      split <;> split <;> omega
    · -- The chains of another prerequisite are what they were.
      have before := consistent.single platform bindsTo
      have apart : platform = opts.platform → bindsTo ≠ opts.bindsTo := fun first second =>
        same ⟨first, second⟩
      have other : ¬ (opts.platform = platform ∧ opts.bindsTo = bindsTo) := fun both =>
        same ⟨both.1.symm, both.2.symm⟩
      have off : Armed.on ⟨world.newHandle, opts, jitteredDelay opts.intervalMs opts.jitterMs offset⟩
          platform bindsTo = false := by simpa [Armed.on] using other
      simp only [chains, World.arm, scheduled, NestedMap.get?_put_of_ne _ _ apart, List.countP_cons,
        off, Bool.false_eq_true, if_false, Nat.add_zero]
      exact before
  · intro timer armed
    rcases List.mem_cons.mp armed with new | old
    · subst new
      exact ⟨_, NestedMap.get?_put_self _ _ _ _, rfl⟩
    · -- An older timer is on another prerequisite, so its entry is still its own.
      have off := List.countP_eq_zero.mp unarmed timer old
      have apart : timer.opts.platform = opts.platform → timer.opts.bindsTo ≠ opts.bindsTo := by
        intro first second
        simp [Armed.on, first, second] at off
      obtain ⟨entry, found, handle⟩ := consistent.owned timer old
      exact ⟨entry, (NestedMap.get?_put_of_ne _ _ apart).trans found, handle⟩

/-- Cancelling keeps what holds, when it leaves nothing of what it covers and all of the rest. -/
theorem Consistent.cancelling {after : World} (consistent : world.Consistent) (scope : Cancelled)
    (emptied : ∀ platform bindsTo, scope.covers platform bindsTo = true → after.impl.cache.get? platform bindsTo = none ∧ after.impl.timers.get? platform bindsTo = none)
    (kept : ∀ platform bindsTo, scope.covers platform bindsTo = false → after.impl.cache.get? platform bindsTo = world.impl.cache.get? platform bindsTo ∧ after.impl.timers.get? platform bindsTo = world.impl.timers.get? platform bindsTo)
    (fewer : List.Sublist after.armed world.armed)
    (cleared : ∀ timer ∈ after.armed, scope.covers timer.opts.platform timer.opts.bindsTo = false)
    (flying : after.inFlight = world.inFlight)
    (cancels : after.cancels = (world.moment, scope) :: world.cancels) : after.Consistent := by
  have shut : after.wasShutDown → scope = .everything ∨ world.wasShutDown := by
    rintro ⟨moment, member⟩
    rw [cancels] at member
    rcases List.mem_cons.mp member with new | old
    · exact .inl (Prod.mk.inj new).2.symm
    · exact .inr ⟨moment, old⟩
  constructor
  · constructor
    · intro platform bindsTo entry startedAt cached origin
      -- What is still cached is not covered by this cancellation, and was not by older ones.
      by_cases covered : scope.covers platform bindsTo = true
      · simp only [JsEvalCacheImpl.get, (emptied _ _ covered).1] at cached
        exact absurd cached (by simp)
      · simp only [JsEvalCacheImpl.get, (kept _ _ (by simpa using covered)).1] at cached
        rintro ⟨moment, older, member, covers, since⟩
        rw [cancels] at member
        rcases List.mem_cons.mp member with new | old
        · exact covered ((Prod.mk.inj new).2 ▸ covers)
        · exact consistent.fresh _ _ entry startedAt cached origin ⟨moment, older, old, covers, since⟩
    · intro platform bindsTo
      refine Nat.le_trans (chains_mono fewer.countP_le (by rw [flying]) fun held => ?_)
        (consistent.single platform bindsTo)
      -- What is still scheduled is not covered, so it was scheduled before.
      by_cases covered : scope.covers platform bindsTo = true
      · simp [scheduled, (emptied _ _ covered).2] at held
      · simpa [scheduled, (kept _ _ (by simpa using covered)).2] using held
    · intro down
      rcases shut down with all | earlier
      · -- The shutdown covers every timer that was armed.
        refine List.eq_nil_iff_forall_not_mem.mpr fun timer armed => ?_
        have left := cleared timer armed
        simp [all, Cancelled.covers] at left
      · exact List.sublist_nil.mp (consistent.silent earlier ▸ fewer)
  · intro timer armed
    obtain ⟨entry, found, handle⟩ := consistent.owned timer (fewer.subset armed)
    exact ⟨entry, (kept _ _ (cleared timer armed)).2.trans found, handle⟩
  · intro down platform bindsTo
    by_cases covered : scope.covers platform bindsTo = true
    · simp [scheduled, (emptied _ _ covered).2]
    · rcases shut down with all | earlier
      · exact absurd (by simp [all, Cancelled.covers]) covered
      · have before := consistent.closed earlier platform bindsTo
        simpa [scheduled, (kept _ _ (by simpa using covered)).2] using before

theorem Consistent.cleared (consistent : world.Consistent) (entries : List TimerEntry)
    (left : timer ∈ clearTimeouts world.armed entries) (entry : TimerEntry)
    (found : world.impl.timers.get? timer.opts.platform timer.opts.bindsTo = some entry) :
    entry ∉ entries := by
  simp only [clearTimeouts, List.mem_filter, Bool.not_eq_true', List.contains_eq_mem,
    decide_eq_false_iff_not] at left
  obtain ⟨own, its, handle⟩ := consistent.owned timer left.1
  rw [found] at its
  obtain rfl := Option.some.inj its
  intro member
  exact left.2 (List.mem_map.mpr ⟨_, member, handle⟩)

/-- Cancelling keeps what holds. -/
theorem Consistent.cancel (consistent : world.Consistent) (platform : String)
    (bindsTo : Option String) : (world.cancel platform bindsTo).Consistent := by
  cases bindsTo with
  | none =>
    -- The whole platform goes, with all its inner keys.
    refine consistent.cancelling (.wholePlatform platform) ?_ ?_ List.filter_sublist ?_ rfl rfl
    · intro platform' bindsTo' covers
      simp only [Cancelled.covers, decide_eq_true_eq] at covers
      subst covers
      exact ⟨NestedMap.get?_erase_self _ _ _, NestedMap.get?_erase_self _ _ _⟩
    · intro platform' bindsTo' spares
      simp only [Cancelled.covers, decide_eq_false_iff_not] at spares
      have apart : platform' ≠ platform := fun same => spares same.symm
      exact ⟨NestedMap.get?_erase_of_ne _ apart _, NestedMap.get?_erase_of_ne _ apart _⟩
    · intro timer left
      obtain ⟨entry, found, -⟩ := consistent.owned timer (List.filter_sublist.subset left)
      have spared := consistent.cleared _ left entry found
      simp only [Cancelled.covers, decide_eq_false_iff_not]
      exact fun same => spared (NestedMap.mem_valuesOf (same ▸ found))
  | some bindsTo =>
    refine consistent.cancelling (.prereq platform bindsTo) ?_ ?_ List.filter_sublist ?_ rfl rfl
    · intro platform' bindsTo' covers
      simp only [Cancelled.covers, decide_eq_true_eq] at covers
      obtain ⟨rfl, rfl⟩ := covers
      exact ⟨NestedMap.get?_drop_self _ _ _, NestedMap.get?_drop_self _ _ _⟩
    · intro platform' bindsTo' spares
      simp only [Cancelled.covers, decide_eq_false_iff_not] at spares
      have apart : platform' = platform → bindsTo' ≠ bindsTo := fun first second =>
        spares ⟨first.symm, second.symm⟩
      exact ⟨NestedMap.get?_drop_of_ne _ apart, NestedMap.get?_drop_of_ne _ apart⟩
    · intro timer left
      obtain ⟨entry, found, -⟩ := consistent.owned timer (List.filter_sublist.subset left)
      have spared := consistent.cleared _ left entry found
      simp only [Cancelled.covers, decide_eq_false_iff_not]
      rintro ⟨first, second⟩
      exact spared (by simp [first, second, found])

theorem Consistent.shutdown (consistent : world.Consistent) :
    world.shutdown.Consistent := by
  refine consistent.cancelling .everything (fun _ _ _ => ⟨rfl, rfl⟩) ?_ List.filter_sublist ?_
    rfl rfl
  · intro platform bindsTo spares
    exact absurd spares (by simp [Cancelled.covers])
  · -- Every armed timer has its entry among the values, all of which are cleared.
    intro timer left
    obtain ⟨entry, found, -⟩ := consistent.owned timer (List.filter_sublist.subset left)
    exact absurd (NestedMap.mem_values found) (consistent.cleared _ left entry found)

/-- A timer that fires passes its chain on to the refresh that it starts. -/
theorem Consistent.fire (consistent : world.Consistent) (armed : timer ∈ world.armed) :
    (world.fire timer).Consistent := by
  refine ⟨⟨consistent.fresh, ?_, ?_⟩, ?_, consistent.closed⟩
  · intro platform bindsTo
    have before := consistent.single platform bindsTo
    have rest : (world.fire timer).armed.countP (·.on platform bindsTo) ≤
        world.armed.countP (·.on platform bindsTo) := List.filter_sublist.countP_le
    by_cases on : timer.on platform bindsTo = true
    · -- The fired timer was the prerequisite's only one, and its refresh the only one now.
      have present : world.scheduled platform bindsTo = true := by
        have held := consistent.scheduled_of_armed armed
        simp only [Armed.on, decide_eq_true_eq] at on
        rwa [on.1, on.2] at held
      have gone : (world.fire timer).armed.countP (·.on platform bindsTo) <
          world.armed.countP (·.on platform bindsTo) :=
        countP_filter_lt armed on (by simp)
      have tick : Tick.on ⟨timer.handle, timer.opts, world.moment⟩ platform bindsTo = true := on
      have held : (world.fire timer).scheduled platform bindsTo = true := present
      rw [chains, if_pos present] at before
      rw [chains, if_pos held]
      simp only [World.fire, List.countP_cons, tick, if_true] at gone ⊢
      omega
    · have tick : Tick.on ⟨timer.handle, timer.opts, world.moment⟩ platform bindsTo = false := by
        simpa [Tick.on, Armed.on] using on
      refine Nat.le_trans (@chains_mono world _ platform bindsTo rest ?_ id) before
      simp [World.fire, tick]
  · intro shut
    have none := consistent.silent shut
    simp [World.fire, none]
  · intro other left
    exact consistent.owned other (List.filter_sublist.subset left)

theorem Consistent.schedule (consistent : world.Consistent) (opts : ScheduleOpts) (offset : Int)
    (allowed : world.outlivesNothing (.schedule opts offset)) :
    (world.schedule opts offset).Consistent := by
  unfold World.schedule
  cases found : world.impl.timers.get? opts.platform opts.bindsTo with
  | some entry => exact consistent
  | none =>
    have absent : world.scheduled opts.platform opts.bindsTo = false := by simp [scheduled, found]
    obtain ⟨landed, opened⟩ := allowed absent
    exact consistent.arm opts opts offset opened (consistent.unarmed absent)
      (List.countP_eq_zero.mpr fun tick member => by simp [landed tick member])

theorem tickOf_some {handle : TimerHandle} {tick : Tick} (found : world.tickOf handle = some tick) :
    tick ∈ world.inFlight ∧ tick.handle = handle :=
  ⟨List.mem_of_find?_eq_some found, by simpa using List.find?_some found⟩

/-- The end of a refresh keeps what holds, if what it returns is not stale. -/
theorem Consistent.resume (consistent : world.Consistent) {tick : Tick}
    (flying : tick ∈ world.inFlight) (outcome : Option (String × ℚ)) (offset : Int)
    (current : outcome.isSome = true → ¬ world.cancelledSince tick.startedAt tick.opts.platform tick.opts.bindsTo) :
    (world.resume tick outcome offset).Consistent := by
  have landed := consistent.land tick
  -- What is stored is as current as its refresh.
  have stored : ((world.land tick).store tick outcome).Consistent := by
    cases outcome with
    | none => exact landed
    | some result =>
      refine landed.put tick.opts.platform tick.opts.bindsTo _ fun startedAt origin => ?_
      obtain rfl : tick.startedAt = startedAt := Origin.refresh.inj origin
      exact current rfl
  have timers : ((world.land tick).store tick outcome).impl.timers = world.impl.timers := by
    cases outcome <;> rfl
  have armed : ((world.land tick).store tick outcome).armed = world.armed := by
    cases outcome <;> rfl
  have inFlight : ((world.land tick).store tick outcome).inFlight =
      world.inFlight.filter (·.handle ≠ tick.handle) := by
    cases outcome <;> rfl
  unfold World.resume World.rearm
  rw [timers]
  cases found : world.impl.timers.get? tick.opts.platform tick.opts.bindsTo with
  | none => exact stored
  | some stillActive =>
    -- The refresh was the prerequisite's one chain, so there is none until the timer is armed.
    have present : world.scheduled tick.opts.platform tick.opts.bindsTo = true := by
      simp [scheduled, found]
    have on : tick.on tick.opts.platform tick.opts.bindsTo = true := by simp [Tick.on]
    have fewer : (world.inFlight.filter (·.handle ≠ tick.handle)).countP
        (·.on tick.opts.platform tick.opts.bindsTo) < world.inFlight.countP
          (·.on tick.opts.platform tick.opts.bindsTo) := countP_filter_lt flying on (by simp)
    have before := consistent.single tick.opts.platform tick.opts.bindsTo
    rw [chains, if_pos present] at before
    refine stored.arm tick.opts stillActive.opts offset (fun shut => ?_) ?_ ?_
    · have none := stored.closed shut tick.opts.platform tick.opts.bindsTo
      simp [scheduled, timers, found] at none
    · rw [armed]
      omega
    · rw [inFlight]
      omega

/-- What an allowed event leads to is consistent again. -/
theorem Consistent.step {next : World} {event : Event} (consistent : world.Consistent)
    (stepped : world.step event = some next) (allowed : world.outlivesNothing event) :
    next.Consistent := by
  obtain ⟨reacted, reaction, rfl⟩ := Option.map_eq_some_iff.mp stepped
  refine Consistent.later ?_ (world.moment + 1)
  cases event with
  | set platform bindsTo value expiresAt now =>
    simp only [react, Option.some.injEq] at reaction
    subst reaction
    exact consistent.put platform bindsTo _ fun startedAt origin => absurd origin (by simp)
  | schedule opts offset =>
    simp only [react, Option.some.injEq] at reaction
    subst reaction
    exact consistent.schedule opts offset allowed
  | cancel platform bindsTo =>
    simp only [react, Option.some.injEq] at reaction
    subst reaction
    exact consistent.cancel platform bindsTo
  | shutdown =>
    simp only [react, Option.some.injEq] at reaction
    subst reaction
    exact consistent.shutdown
  | fires handle =>
    obtain ⟨timer, found, rfl⟩ := Option.map_eq_some_iff.mp reaction
    exact consistent.fire (List.mem_of_find?_eq_some found)
  | refreshed handle value now offset =>
    obtain ⟨tick, found, rfl⟩ := Option.map_eq_some_iff.mp reaction
    exact consistent.resume (tickOf_some found).1 _ offset fun _ => allowed tick found
  | refreshFailed handle offset =>
    obtain ⟨tick, found, rfl⟩ := Option.map_eq_some_iff.mp reaction
    exact consistent.resume (tickOf_some found).1 _ offset fun some => absurd some (by simp)

/-- An event that is not allowed breaks a promise at once. -/
theorem outlivesNothing_of_next {next : World} {event : Event}
    (stepped : world.step event = some next) (promised : next.StaysCancelled) :
    world.outlivesNothing event := by
  obtain ⟨reacted, reaction, rfl⟩ := Option.map_eq_some_iff.mp stepped
  cases event with
  | schedule opts offset =>
    intro absent
    have found : world.impl.timers.get? opts.platform opts.bindsTo = none := by
      simpa [scheduled] using absent
    simp only [react, World.schedule, found, Option.some.injEq] at reaction
    subst reaction
    constructor
    · -- The new timer is a chain, so that no refresh in flight may be another.
      have one := promised.single opts.platform opts.bindsTo
      have held : World.scheduled { world.arm opts opts offset with moment := world.moment + 1 }
          opts.platform opts.bindsTo = true := by
        simp [scheduled, World.arm]
      rw [chains, if_pos held] at one
      simp only [World.arm, List.countP_cons, Armed.on, and_self, decide_true, if_true] at one
      have none : world.inFlight.countP (·.on opts.platform opts.bindsTo) = 0 := by omega
      intro tick member
      simpa using List.countP_eq_zero.mp none tick member
    · intro shut
      have silent := promised.silent shut
      simp [World.arm] at silent
  | refreshed handle value now offset =>
    intro tick found
    simp only [react, found, Option.map_some, Option.some.injEq] at reaction
    subst reaction
    -- The cache returns what the refresh did, so the refresh is not stale.
    have rearmed : ∀ ended : World, (ended.rearm tick offset).impl.cache = ended.impl.cache ∧
        (ended.rearm tick offset).cancels = ended.cancels := by
      intro ended
      unfold rearm
      split <;> exact ⟨rfl, rfl⟩
    intro since
    refine promised.fresh tick.opts.platform tick.opts.bindsTo
      ⟨value, if tick.opts.intervalMs > 0 then some (now + tick.opts.intervalMs) else none, now,
        .refresh tick.startedAt⟩ tick.startedAt ?_ rfl ?_
    · simp only [JsEvalCacheImpl.get, World.resume, (rearmed _).1]
      exact NestedMap.get?_put_self _ _ _ _
    · simp only [cancelledSince, World.resume, (rearmed _).2]
      exact since
  | set platform bindsTo value expiresAt now => trivial
  | cancel platform bindsTo => trivial
  | shutdown => trivial
  | fires handle => trivial
  | refreshFailed handle offset => trivial

theorem start_consistent : start.Consistent := by
  refine ⟨⟨?_, fun _ _ => ?_, fun _ => rfl⟩, ?_, fun _ _ _ => rfl⟩
  · intro platform bindsTo entry startedAt cached
    exact absurd cached (by simp [start, JsEvalCacheImpl.get])
  · unfold chains
    split <;> simp [start]
  · intro timer armed
    exact absurd armed (by simp [start])

/-- A refresh of a shop's token once a minute. -/
def tokenRefresh : ScheduleOpts := ⟨"shop", "token", 60000, 0⟩

/-- The refresh is still under way when the shop's refreshes are cancelled. -/
def cancelledRun : List Event :=
  [.schedule tokenRefresh 0, .fires ⟨0⟩, .cancel "shop" none, .refreshed ⟨0⟩ "old" 60001 0]

/-- The refresh is still under way when the token is cancelled and scheduled again; it fails, and
all is shut down. -/
def rescheduledRun : List Event :=
  [.schedule tokenRefresh 0, .fires ⟨0⟩, .cancel "shop" (some "token"), .schedule tokenRefresh 0,
    .refreshFailed ⟨0⟩ 0, .shutdown]

end World

end JsEval

end Klura
