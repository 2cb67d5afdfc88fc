import Klura.Scheduler.Moves

/-! An origin never admits more than its policy lets through. -/

namespace Klura

/-- The permits that were given out, newest first. -/
def OriginEntryV1.admissions (entry : OriginEntryV1) : List AdmissionV1 :=
  entry.history.filterMap fun
    | .admitted admission _ => some admission
    | _ => none

namespace OriginEntryV1

/-- What the rate of admissions depends on is the same. -/
structure RateSame (before after : OriginEntryV1) : Prop where
  policy : after.policy = before.policy
  active : after.active = before.active
  tokens : after.tokens = before.tokens
  lastRefillAt : after.lastRefillAt = before.lastRefillAt
  nextAdmissionAt : after.nextAdmissionAt = before.nextAdmissionAt
  circuitOpenUntil : after.circuitOpenUntil = before.circuitOpenUntil
  permits : after.permits = before.permits
  admissions : after.admissions = before.admissions

theorem RateSame.refl (entry : OriginEntryV1) : RateSame entry entry := by
  constructor <;> rfl

theorem RateSame.trans {first second third : OriginEntryV1} (left : RateSame first second)
    (right : RateSame second third) : RateSame first third where
  policy := right.policy.trans left.policy
  active := right.active.trans left.active
  tokens := right.tokens.trans left.tokens
  lastRefillAt := right.lastRefillAt.trans left.lastRefillAt
  nextAdmissionAt := right.nextAdmissionAt.trans left.nextAdmissionAt
  circuitOpenUntil := right.circuitOpenUntil.trans left.circuitOpenUntil
  permits := right.permits.trans left.permits
  admissions := right.admissions.trans left.admissions

theorem removeWorkload_rate (entry : OriginEntryV1) (workloadId : String) :
    RateSame entry (entry.removeWorkload workloadId) := by
  by_cases present : workloadId ∈ entry.workloadOrder
  · by_cases empty : (entry.workloadOrder.erase workloadId).length = 0
    · simp only [removeWorkload, if_pos present, if_pos empty]
      constructor <;> rfl
    · simp only [removeWorkload, if_pos present, if_neg empty]
      constructor <;> rfl
  · simp only [removeWorkload, if_neg present]
    constructor <;> rfl

theorem rejectQueued_rate (entry : OriginEntryV1) (reason : SchedulerRejectionV1)
    (queued : QueuedAdmissionV1) : RateSame entry (entry.rejectQueued reason queued) := by
  have removed : RateSame entry (entry.removeQueued queued) := by
    unfold removeQueued
    cases entry.queues.get? queued.workloadId with
    | none => exact .refl entry
    | some queue =>
      by_cases held : queued ∈ queue
      · simp only [if_pos held]
        by_cases last : (queue.erase queued).length = 0
        · simp only [if_pos last]
          exact RateSame.trans (by constructor <;> rfl) (removeWorkload_rate _ _)
        · simp only [if_neg last]
          constructor <;> rfl
      · simp only [if_neg held]
        exact .refl entry
  exact removed.trans (by constructor <;> rfl)

theorem rejectAll_rate (reason : SchedulerRejectionV1) (queued : List QueuedAdmissionV1)
    (entry : OriginEntryV1) : RateSame entry (queued.foldl (rejectQueued · reason) entry) := by
  induction queued generalizing entry with
  | nil => exact .refl entry
  | cons first rest ih => exact (rejectQueued_rate entry reason first).trans (ih _)

theorem dequeueRoundRobin_rate (fuel : Nat) (entry : OriginEntryV1) :
    RateSame entry (dequeueRoundRobin fuel entry).2 := by
  induction fuel generalizing entry with
  | zero => exact .refl entry
  | succ fuel ih =>
    cases turn : entry.workloadOrder[entry.nextWorkloadIndex % entry.workloadOrder.length]? with
    | none =>
      simp only [dequeueRoundRobin, turn]
      exact .refl entry
    | some workloadId =>
      by_cases nameless : workloadId = ""
      · simp only [dequeueRoundRobin, turn, if_pos nameless]
        exact .refl entry
      · -- A workload without a request is passed over.
        have skipped : RateSame entry
            (dequeueRoundRobin fuel (removeWorkload { entry with
              nextWorkloadIndex := (entry.nextWorkloadIndex % entry.workloadOrder.length + 1) %
                entry.workloadOrder.length } workloadId)).2 :=
          (RateSame.trans (by constructor <;> rfl) (removeWorkload_rate _ _)).trans (ih _)
        cases found : entry.queues.get? workloadId with
        | none => simpa only [dequeueRoundRobin, turn, if_neg nameless, found] using skipped
        | some queue =>
          cases queue with
          | nil => simpa only [dequeueRoundRobin, turn, if_neg nameless, found] using skipped
          | cons queued rest =>
            by_cases last : rest.length = 0
            · simp only [dequeueRoundRobin, turn, if_neg nameless, found, if_pos last]
              exact RateSame.trans (by constructor <;> rfl) (removeWorkload_rate _ _)
            · simp only [dequeueRoundRobin, turn, if_neg nameless, found, if_neg last]
              constructor <;> rfl

theorem scheduleNextAdmission_rate (entry : OriginEntryV1) (clock : DrainClockV1) :
    RateSame entry (entry.scheduleNextAdmission clock) := by
  rw [scheduleNextAdmission_eq]
  split <;> constructor <;> rfl

theorem enqueue_rate (entry : OriginEntryV1) (queued : QueuedAdmissionV1) :
    RateSame entry ((entry.enqueue queued).note .queued) := by
  unfold enqueue
  cases entry.queues.get? queued.workloadId with
  | none => constructor <;> rfl
  | some queue => constructor <;> rfl

end OriginEntryV1

/-- A drain keeps what depends on the rate alone and what permits that may be given keep. -/
theorem OriginEntryV1.drain_of_rate {property : OriginEntryV1 → Prop} {entry : OriginEntryV1}
    {aborted : List Nat} {clock : DrainClockV1} (refilled : property (entry.refill clock.nowMs))
    (same : ∀ before after, property before → RateSame before after → property after)
    (grants : ∀ before queued, property before →
      (before.active : ℚ) < before.policy.maxConcurrency → 1 ≤ before.tokens →
        before.nextAdmissionAt ≤ clock.nowMs → before.circuitOpenUntil ≤ clock.nowMs →
          property (before.grantPermit queued clock.nowMs aborted)) :
    property (entry.drain aborted clock) := by
  -- The loop gives permits while the circuit that was checked before it stays closed.
  have loop : ∀ fuel (before : OriginEntryV1), property before →
      before.circuitOpenUntil ≤ clock.nowMs →
        property (admitQueued clock.nowMs aborted fuel before) := by
    intro fuel
    induction fuel with
    | zero => exact fun before holds _ => holds
    | succ fuel ih =>
      intro before holds closed
      unfold admitQueued
      by_cases admits : before.Admits clock.nowMs
      · rw [if_pos admits]
        have rate := dequeueRoundRobin_rate (before.workloadOrder.length + 1) before
        cases taken : dequeueRoundRobin (before.workloadOrder.length + 1) before with
        | mk queued after =>
          rw [taken] at rate
          have kept := same _ _ holds rate
          cases queued with
          | none => exact kept
          | some queued =>
            obtain ⟨_, fits, token, waited⟩ := admits
            rw [← rate.active, ← rate.policy] at fits
            rw [← rate.tokens] at token
            rw [← rate.nextAdmissionAt] at waited
            rw [← rate.circuitOpenUntil] at closed
            exact ih _ (grants after queued kept fits token waited closed) closed
      · rw [if_neg admits]
        exact holds
  obtain ⟨ready, is, cases'⟩ := drain_cases entry aborted clock
  have holds : property ready := by
    rw [is]
    exact same _ _ refilled (rejectAll_rate _ _ _)
  rcases cases' with ⟨_, drained⟩ | ⟨_, _, drained⟩ | ⟨_, closed, drained⟩
  · rwa [drained]
  · rw [drained]
    exact same _ _ holds (rejectAll_rate _ _ _)
  · rw [drained]
    exact same _ _ (loop _ _ holds closed) (scheduleNextAdmission_rate _ _)

/-- What the recorded admissions say about each other. -/
structure RateRecorded (admissions : List AdmissionV1) : Prop where
  concurrency : ∀ admission ∈ admissions,
    (admission.unreleased : ℚ) < admission.policy.maxConcurrency + 1
  spacing : admissions.Pairwise fun later earlier =>
    earlier.atMs + earlier.policy.minDelayMs ≤ later.atMs
  window : ∀ newer later middle earlier older,
    admissions = newer ++ later :: (middle ++ earlier :: older) →
      (middle.length : ℚ) + 2 ≤ earlier.policy.burst +
        (later.atMs - earlier.atMs) * earlier.policy.requestsPerSecond / 1000
  circuit : ∀ admission ∈ admissions, admission.circuitOpenUntil ≤ admission.atMs

/-- What the state of an origin says about the admissions to come. -/
structure OriginEntryV1.RateKeeps (entry : OriginEntryV1) : Prop where
  active : entry.active = entry.permits.length
  tokens : entry.tokens ≤ entry.policy.burst
  times : ∀ admission ∈ entry.admissions, admission.atMs ≤ entry.lastRefillAt
  delays : ∀ admission ∈ entry.admissions,
    admission.atMs + admission.policy.minDelayMs ≤ entry.nextAdmissionAt
  within : ∀ admission ∈ entry.admissions, entry.policy.WithinRate admission.policy
  /-- Tokens at hand and admissions since never exceed the burst and what came in since. -/
  potential : ∀ newer admission older, entry.admissions = newer ++ admission :: older →
    (newer.length : ℚ) + 1 + entry.tokens ≤ admission.policy.burst +
      (entry.lastRefillAt - admission.atMs) * admission.policy.requestsPerSecond / 1000
  recorded : RateRecorded entry.admissions

namespace OriginEntryV1.RateKeeps

variable {entry : OriginEntryV1}

theorem same {after : OriginEntryV1} (keeps : entry.RateKeeps) (rate : RateSame entry after) :
    after.RateKeeps where
  active := by rw [rate.active, rate.permits]; exact keeps.active
  tokens := by rw [rate.tokens, rate.policy]; exact keeps.tokens
  times := by rw [rate.admissions, rate.lastRefillAt]; exact keeps.times
  delays := by rw [rate.admissions, rate.nextAdmissionAt]; exact keeps.delays
  within := by rw [rate.admissions, rate.policy]; exact keeps.within
  potential := by rw [rate.admissions, rate.tokens, rate.lastRefillAt]; exact keeps.potential
  recorded := by rw [rate.admissions]; exact keeps.recorded

theorem newEntry (policy : OriginSchedulerTrafficPolicyV1)
    (recovered : Option PersistedOriginStateV1) (nowMs : ℚ) :
    (OriginSchedulerV1.newEntry policy recovered nowMs).RateKeeps := by
  constructor <;> simp [OriginSchedulerV1.newEntry, OriginEntryV1.admissions]
  constructor <;> simp

theorem under {policy merged : OriginSchedulerTrafficPolicyV1} (keeps : entry.RateKeeps)
    (merges : mergeConservatively entry.policy policy = .ok merged) :
    (entry.under merged).RateKeeps where
  active := keeps.active
  tokens := min_le_right _ _
  times := keeps.times
  delays := keeps.delays
  within admission member :=
    (OriginSchedulerTrafficPolicyV1.mergeConservatively_within merges).trans
      (keeps.within admission member)
  potential newer admission older split := by
    have before := keeps.potential newer admission older split
    have fewer : (entry.under merged).tokens ≤ entry.tokens := min_le_left _ _
    have refilled : (entry.under merged).lastRefillAt = entry.lastRefillAt := rfl
    rw [refilled]
    linarith
  recorded := keeps.recorded

variable {nowMs : ℚ}

theorem refill (keeps : entry.RateKeeps) (later : entry.lastRefillAt ≤ nowMs) :
    (entry.refill nowMs).RateKeeps where
  active := keeps.active
  tokens := min_le_left _ _
  times admission member := (keeps.times admission member).trans later
  delays := keeps.delays
  within := keeps.within
  potential newer admission older split := by
    have before := keeps.potential newer admission older split
    have member : admission ∈ entry.admissions := by
      have split' : entry.admissions = newer ++ admission :: older := split
      rw [split']
      simp
    have slower := (keeps.within admission member).requestsPerSecond
    have elapsed : max 0 (nowMs - entry.lastRefillAt) = nowMs - entry.lastRefillAt :=
      max_eq_right (by linarith)
    have gained : (entry.refill nowMs).tokens ≤
        entry.tokens + (nowMs - entry.lastRefillAt) * entry.policy.requestsPerSecond / 1000 := by
      simp [OriginEntryV1.refill, elapsed]
    have product : (nowMs - entry.lastRefillAt) * entry.policy.requestsPerSecond ≤
        (nowMs - entry.lastRefillAt) * admission.policy.requestsPerSecond :=
      mul_le_mul_of_nonneg_left slower (by linarith)
    have refilled : (entry.refill nowMs).lastRefillAt = nowMs := rfl
    rw [refilled]
    linarith
  recorded := keeps.recorded

/-- A permit that may be given keeps the rate. -/
theorem grantPermit {queued : QueuedAdmissionV1} {aborted : List Nat} (keeps : entry.RateKeeps)
    (fits : (entry.active : ℚ) < entry.policy.maxConcurrency) (token : 1 ≤ entry.tokens)
    (waited : entry.nextAdmissionAt ≤ nowMs) (refilled : entry.lastRefillAt = nowMs)
    (closed : entry.circuitOpenUntil ≤ nowMs) :
    (entry.grantPermit queued nowMs aborted).RateKeeps := by
  obtain ⟨active, tokens, times, delays, within, potential, recorded⟩ := keeps
  have admissions : (entry.grantPermit queued nowMs aborted).admissions =
      { id := queued.id
        workloadId := queued.workloadId
        atMs := nowMs
        policy := entry.policy
        unreleased := entry.permits.length + 1
        circuitOpenUntil := entry.circuitOpenUntil
        cancelled := queued.aborted aborted } :: entry.admissions := rfl
  have delay := entry.policy.delayRange.1
  have onTime : ∀ admission ∈ entry.admissions,
      admission.atMs + admission.policy.minDelayMs ≤ nowMs :=
    fun admission member => (delays admission member).trans waited
  -- The new admission is the last one of every window that ends with it.
  have window : ∀ newer admission older, entry.admissions = newer ++ admission :: older →
      (newer.length : ℚ) + 2 ≤ admission.policy.burst +
        (nowMs - admission.atMs) * admission.policy.requestsPerSecond / 1000 := by
    intro newer admission older split
    have before := potential newer admission older split
    rw [refilled] at before
    linarith
  constructor
  · exact congrArg (· + 1) active
  · have spent : (entry.grantPermit queued nowMs aborted).tokens = entry.tokens - 1 := rfl
    have same : (entry.grantPermit queued nowMs aborted).policy = entry.policy := rfl
    rw [spent, same]
    linarith
  · rw [admissions]
    intro admission member
    rcases List.mem_cons.mp member with rfl | old
    · exact refilled.ge
    · exact times admission old
  · rw [admissions]
    intro admission member
    rcases List.mem_cons.mp member with rfl | old
    · exact le_refl _
    · have before := onTime admission old
      have next : (entry.grantPermit queued nowMs aborted).nextAdmissionAt =
          nowMs + entry.policy.minDelayMs := rfl
      rw [next]
      linarith
  · rw [admissions]
    intro admission member
    rcases List.mem_cons.mp member with rfl | old
    · exact .refl _
    · exact within admission old
  · rw [admissions]
    intro newer admission older split
    have spent : (entry.grantPermit queued nowMs aborted).tokens = entry.tokens - 1 := rfl
    have at' : (entry.grantPermit queued nowMs aborted).lastRefillAt = nowMs := refilled
    rw [spent, at']
    cases newer with
    | nil =>
      simp only [List.nil_append, List.cons.injEq] at split
      obtain ⟨rfl, _⟩ := split
      simp only [List.length_nil, Nat.cast_zero, sub_self, zero_mul, zero_div]
      linarith
    | cons first newer =>
      simp only [List.cons_append, List.cons.injEq] at split
      have before := potential newer admission older split.2
      rw [refilled] at before
      simp only [List.length_cons, Nat.cast_add, Nat.cast_one]
      linarith
  · rw [admissions]
    constructor
    · intro admission member
      rcases List.mem_cons.mp member with rfl | old
      · rw [active] at fits
        simp only [Nat.cast_add, Nat.cast_one]
        linarith
      · exact recorded.concurrency admission old
    · exact List.pairwise_cons.mpr ⟨onTime, recorded.spacing⟩
    · intro newer later middle earlier older split
      cases newer with
      | nil =>
        simp only [List.nil_append, List.cons.injEq] at split
        obtain ⟨rfl, rest⟩ := split
        exact window middle earlier older rest
      | cons first newer =>
        simp only [List.cons_append, List.cons.injEq] at split
        exact recorded.window newer later middle earlier older split.2
    · intro admission member
      rcases List.mem_cons.mp member with rfl | old
      · exact closed
      · exact recorded.circuit admission old

theorem drain {aborted : List Nat} {clock : DrainClockV1} (keeps : entry.RateKeeps)
    (later : entry.lastRefillAt ≤ clock.nowMs) :
    (entry.drain aborted clock).RateKeeps ∧
      (entry.drain aborted clock).lastRefillAt = clock.nowMs := by
  refine @OriginEntryV1.drain_of_rate
    (fun entry => entry.RateKeeps ∧ entry.lastRefillAt = clock.nowMs) entry aborted clock
    ⟨keeps.refill later, rfl⟩ ?_ ?_
  · intro before after holds rate
    exact ⟨holds.1.same rate, rate.lastRefillAt.trans holds.2⟩
  · intro before queued holds fits token waited closed
    exact ⟨holds.1.grantPermit fits token waited holds.2 closed, holds.2⟩

theorem free {id : Nat} (keeps : entry.RateKeeps) (held : id ∈ entry.permits) :
    (entry.free id).RateKeeps where
  active := by
    have fewer := List.length_erase_of_mem held
    have active := keeps.active
    simp only [OriginEntryV1.free, fewer, active]
  tokens := keeps.tokens
  times := keeps.times
  delays := keeps.delays
  within := keeps.within
  potential := keeps.potential
  recorded := keeps.recorded

theorem recordCompletion {completion : SchedulerCompletionV1} (keeps : entry.RateKeeps) :
    (entry.recordCompletion completion nowMs).RateKeeps := by
  obtain ⟨failures, openUntil, is⟩ := recordCompletion_eq entry completion nowMs
  obtain ⟨active, tokens, times, delays, within, potential, recorded⟩ := keeps
  rw [is]
  exact ⟨active, tokens, times, delays, within, potential, recorded⟩

end OriginEntryV1.RateKeeps

/-- The admissions from one time on, for as long as a window lasts. -/
def admissionsWithin (admissions : List AdmissionV1) (startMs lengthMs : ℚ) : List AdmissionV1 :=
  admissions.filter fun admission =>
    decide (startMs ≤ admission.atMs ∧ admission.atMs ≤ startMs + lengthMs)

/-- Every admission respects the policy in force, and so does every window of them. -/
structure AdmitsWithinPolicy (admissions : List AdmissionV1) : Prop where
  concurrency : ∀ admission ∈ admissions,
    (admission.unreleased : ℚ) ≤ admission.policy.maxConcurrency
  spacing : admissions.Pairwise fun later earlier =>
    earlier.atMs + earlier.policy.minDelayMs ≤ later.atMs
  window : ∀ (startMs lengthMs : ℚ) (least : OriginSchedulerTrafficPolicyV1), 0 ≤ lengthMs →
    (∀ admission ∈ admissionsWithin admissions startMs lengthMs,
      admission.policy.WithinRate least) →
    ((admissionsWithin admissions startMs lengthMs).length : ℚ) ≤
      least.burst + lengthMs * least.requestsPerSecond / 1000
  circuit : ∀ admission ∈ admissions, admission.circuitOpenUntil ≤ admission.atMs

/-- A window holds no more admissions than its length lets through. -/
theorem RateRecorded.within {admissions : List AdmissionV1} (recorded : RateRecorded admissions)
    {startMs lengthMs : ℚ} {least : OriginSchedulerTrafficPolicyV1} (forward : 0 ≤ lengthMs)
    (strict : ∀ admission ∈ admissionsWithin admissions startMs lengthMs,
      admission.policy.WithinRate least) :
    ((admissionsWithin admissions startMs lengthMs).length : ℚ) ≤
      least.burst + lengthMs * least.requestsPerSecond / 1000 := by
  have burst := least.burstRange.1
  have gained : 0 ≤ lengthMs * least.requestsPerSecond / 1000 := by
    have product := mul_nonneg forward least.rateRange.1.le
    linarith
  cases inside : admissionsWithin admissions startMs lengthMs with
  | nil =>
    simp only [List.length_nil, Nat.cast_zero]
    linarith
  | cons later rest =>
    have laterInside : later ∈ admissionsWithin admissions startMs lengthMs := by simp [inside]
    rcases List.eq_nil_or_concat rest with rfl | ⟨middle, earlier, rfl⟩
    · simp only [List.length_cons, List.length_nil, zero_add, Nat.cast_one]
      linarith
    · rw [List.concat_eq_append] at inside
      have earlierInside : earlier ∈ admissionsWithin admissions startMs lengthMs := by
        simp [inside]
      -- The first and the last admission of the window frame the others.
      obtain ⟨newer, behind, split, _, _, tail⟩ := List.filter_eq_cons_iff.mp inside
      obtain ⟨between, oldest, splitTail, middleIs, lastIs⟩ := List.filter_eq_append_iff.mp tail
      obtain ⟨skipped, older, splitLast, _, _, _⟩ := List.filter_eq_cons_iff.mp lastIs
      have bound := recorded.window newer later (between ++ skipped) earlier older (by
        rw [split, splitTail, splitLast]
        simp)
      have fewer : (middle.length : ℚ) ≤ ((between ++ skipped).length : ℚ) := by
        have shorter := List.length_filter_le
          (fun admission : AdmissionV1 =>
            decide (startMs ≤ admission.atMs ∧ admission.atMs ≤ startMs + lengthMs)) between
        rw [middleIs] at shorter
        rw [List.length_append]
        exact_mod_cast Nat.le_add_right_of_le shorter
      have laterTimes := (List.mem_filter.mp laterInside).2
      have earlierTimes := (List.mem_filter.mp earlierInside).2
      simp only [decide_eq_true_eq] at laterTimes earlierTimes
      have stricter := strict earlier earlierInside
      have slow : (later.atMs - earlier.atMs) * earlier.policy.requestsPerSecond ≤
          lengthMs * least.requestsPerSecond :=
        mul_le_mul (by linarith) stricter.requestsPerSecond earlier.policy.rateRange.1.le forward
      have small := stricter.burst
      simp only [List.concat_eq_append, List.length_cons, List.length_append, List.length_nil,
        Nat.cast_add, Nat.cast_one, Nat.cast_zero] at fewer bound ⊢
      linarith

/-- Whether a policy counts concurrent requests in whole numbers. -/
def WholeConcurrency (policy : OriginSchedulerTrafficPolicyV1) : Prop :=
  ∃ permits : ℕ, policy.maxConcurrency = permits

/-- Every policy that callers pass counts concurrent requests in whole numbers. -/
def PassesWholeConcurrency (_ : OriginSchedulerV1) : SchedulerEventV1 → Prop
  | .acquire policy _ _ _ _ => WholeConcurrency policy
  | _ => True

theorem WholeConcurrency.merged {left right merged : OriginSchedulerTrafficPolicyV1}
    (first : WholeConcurrency left) (second : WholeConcurrency right)
    (merges : mergeConservatively left right = .ok merged) : WholeConcurrency merged := by
  unfold mergeConservatively at merges
  split at merges
  · cases merges
  · cases merges
    rcases min_choice left.maxConcurrency right.maxConcurrency with is | is
    · exact first.imp fun permits whole => is.trans whole
    · exact second.imp fun permits whole => is.trans whole

/-- The policy in force and those that were count in whole numbers. -/
structure OriginEntryV1.Whole (entry : OriginEntryV1) : Prop where
  policy : WholeConcurrency entry.policy
  admissions : ∀ admission ∈ entry.admissions, WholeConcurrency admission.policy

namespace OriginEntryV1.Whole

variable {entry : OriginEntryV1}

theorem same {after : OriginEntryV1} (whole : entry.Whole) (rate : RateSame entry after) :
    after.Whole where
  policy := by rw [rate.policy]; exact whole.policy
  admissions := by rw [rate.admissions]; exact whole.admissions

theorem grantPermit {queued : QueuedAdmissionV1} {aborted : List Nat} {nowMs : ℚ}
    (whole : entry.Whole) : (entry.grantPermit queued nowMs aborted).Whole where
  policy := whole.policy
  admissions admission member := by
    rcases List.mem_cons.mp member with rfl | old
    · exact whole.policy
    · exact whole.admissions admission old

theorem drain {aborted : List Nat} {clock : DrainClockV1} (whole : entry.Whole) :
    (entry.drain aborted clock).Whole := by
  apply OriginEntryV1.drain_of_rate
  · exact ⟨whole.policy, whole.admissions⟩
  · exact fun before after kept rate => kept.same rate
  · exact fun before queued kept _ _ _ _ => kept.grantPermit

theorem completed {id : Nat} {completion : SchedulerCompletionV1} {nowMs : ℚ}
    (whole : entry.Whole) : ((entry.free id).recordCompletion completion nowMs).Whole := by
  obtain ⟨failures, openUntil, is⟩ := recordCompletion_eq (entry.free id) completion nowMs
  rw [is]
  exact ⟨whole.policy, whole.admissions⟩

end OriginEntryV1.Whole

/-- What every event keeps of the rate of an origin's admissions. -/
structure OriginEntryV1.RateInForce (scheduler : OriginSchedulerV1) (entry : OriginEntryV1) :
    Prop where
  rate : entry.RateKeeps
  refilled : entry.lastRefillAt ≤ scheduler.clockMs

theorem OriginEntryV1.RateInForce.drained {after : OriginSchedulerV1} {entry : OriginEntryV1}
    {aborted : List Nat} {clock : DrainClockV1} {lastMs : ℚ} (rate : entry.RateKeeps)
    (refilled : entry.lastRefillAt ≤ lastMs) (follows : clock.Follows lastMs)
    (ends : after.clockMs = clock.waitMs) : RateInForce after (entry.drain aborted clock) := by
  obtain ⟨kept, at'⟩ := rate.drain (refilled.trans follows.1)
  refine ⟨kept, ?_⟩
  rw [at', ends]
  exact follows.now_le

theorem OriginEntryV1.completed_lastRefillAt (entry : OriginEntryV1) (id : Nat)
    (completion : SchedulerCompletionV1) (nowMs : ℚ) :
    ((entry.free id).recordCompletion completion nowMs).lastRefillAt = entry.lastRefillAt := by
  obtain ⟨failures, openUntil, is⟩ := recordCompletion_eq (entry.free id) completion nowMs
  rw [is]
  rfl

variable {scheduler : OriginSchedulerV1}

open OriginEntryV1 in
/-- The rate of every origin's admissions stays in force. -/
theorem originScheduler_rate {allowed : OriginSchedulerV1 → SchedulerEventV1 → Prop}
    (reached : originScheduler.Reaches allowed scheduler) {origin : String} {entry : OriginEntryV1}
    (has : scheduler.entries.get? origin = some entry) : RateInForce scheduler entry := by
  refine originScheduler_invariant ?_ ?_ reached has
  · intro before after entry kept inForce
    exact ⟨inForce.rate, inForce.refilled.trans kept.clock⟩
  · intro before after event origin old entry _ kept move _ known
    cases move with
    | meets named starts follows ends counted wanted =>
      exact RateInForce.drained ((RateKeeps.newEntry _ _ _).same (enqueue_rate _ _))
        (enqueue_rate _ _).lastRefillAt.le follows ends
    | joins named starts follows ends counted wanted merges =>
      obtain ⟨rate, refilled⟩ := known _ rfl
      refine RateInForce.drained ((rate.under merges).same (enqueue_rate _ _)) ?_ follows ends
      rw [(enqueue_rate _ _).lastRefillAt]
      exact refilled.trans starts
    | @throws _ id completion _ completedMs _ _ entry held starts writes =>
      obtain ⟨rate, refilled⟩ := known _ rfl
      refine ⟨(rate.free held).recordCompletion, ?_⟩
      rw [completed_lastRefillAt]
      exact refilled.trans kept.clock
    | @releases _ id completion _ completedMs _ _ entry held starts ordered follows ends returns =>
      obtain ⟨rate, refilled⟩ := known _ rfl
      refine RateInForce.drained (rate.free held).recordCompletion ?_ follows ends
      rw [completed_lastRefillAt]
      exact refilled.trans (starts.trans ordered)
    | @leaves _ queued entry waits gone =>
      obtain ⟨rate, refilled⟩ := known _ rfl
      have same := rejectQueued_rate entry .cancelled queued
      refine ⟨rate.same same, ?_⟩
      rw [same.lastRefillAt]
      exact refilled.trans kept.clock
    | @wakes _ clock entry armed follows ends =>
      obtain ⟨rate, refilled⟩ := known _ rfl
      have same : RateSame entry { entry with timer := false } := by constructor <;> rfl
      exact RateInForce.drained (rate.same same) refilled follows ends

open OriginEntryV1 in
/-- Policies that count in whole numbers are merged into such policies. -/
theorem originScheduler_whole (reached : originScheduler.Reaches PassesWholeConcurrency scheduler)
    {origin : String} {entry : OriginEntryV1} (has : scheduler.entries.get? origin = some entry) :
    entry.Whole := by
  refine @originScheduler_invariant _ (fun _ entry => entry.Whole) ?_ ?_ _ reached _ _ has
  · exact fun _ _ _ _ whole => whole
  · intro before after event origin old entry passes kept move _ known
    cases move with
    | @meets policy signal workloadId workload entryMs clock named starts follows ends counted wanted =>
      have whole : (OriginSchedulerV1.newEntry policy (before.recovered.get? policy.origin)
          entryMs).Whole := ⟨passes, by simp [OriginSchedulerV1.newEntry, admissions]⟩
      exact (whole.same (enqueue_rate _ _)).drain
    | @joins policy merged signal workloadId workload entryMs clock entry named starts follows ends
        counted wanted merges =>
      have whole := known _ rfl
      have under : (entry.under merged).Whole :=
        ⟨whole.policy.merged passes merges, whole.admissions⟩
      exact (under.same (enqueue_rate _ _)).drain
    | throws held starts writes => exact (known _ rfl).completed
    | releases held starts ordered follows ends returns => exact (known _ rfl).completed.drain
    | leaves waits gone => exact (known _ rfl).same (rejectQueued_rate _ _ _)
    | wakes armed follows ends =>
      have whole := known _ rfl
      exact OriginEntryV1.Whole.drain ⟨whole.policy, whole.admissions⟩

/-- While callers count in whole numbers, no origin admits more than its policy lets through. -/
theorem originScheduler_admits {scheduler : OriginSchedulerV1}
    (reached : originScheduler.Reaches PassesWholeConcurrency scheduler) :
    ∀ origin entry, scheduler.entries.get? origin = some entry →
      AdmitsWithinPolicy entry.admissions := by
  intro origin entry has
  obtain ⟨rate, _⟩ := originScheduler_rate reached has
  have whole := originScheduler_whole reached has
  refine ⟨fun admission member => ?_, rate.recorded.spacing,
    fun startMs lengthMs least forward strict => rate.recorded.within forward strict,
    rate.recorded.circuit⟩
  -- A whole number of permits below the bound plus one is at most the bound.
  obtain ⟨permits, isWhole⟩ := whole.admissions admission member
  have below := rate.recorded.concurrency admission member
  rw [isWhole] at below ⊢
  have whole' : admission.unreleased < permits + 1 := by exact_mod_cast below
  exact_mod_cast Nat.le_of_lt_succ whole'

/-- Two requests under one policy, at the same time. -/
def twoRequests (policy : OriginSchedulerTrafficPolicyV1) : List SchedulerEventV1 :=
  [.acquire policy none none 0 ⟨0, 0, 0⟩, .acquire policy none none 0 ⟨0, 0, 0⟩]

/-- The permits that are out at each admission of an origin, with the most that may be. -/
def permitsOut (scheduler : OriginSchedulerV1) (origin : String) : Option (List (Nat × ℚ)) :=
  (scheduler.entries.get? origin).map fun entry =>
    entry.admissions.map fun admission => (admission.unreleased, admission.policy.maxConcurrency)

/-- Under one and a half concurrent requests, two are admitted at once. -/
theorem originScheduler_exceeds :
    ¬ ∀ scheduler, originScheduler.Reaches (fun _ _ => True) scheduler →
      ∀ origin entry, scheduler.entries.get? origin = some entry →
        AdmitsWithinPolicy entry.admissions := by
  intro always
  have ran : ((schedulerRun .fresh (twoRequests (localPolicy (3 / 2) (by norm_num)))).map
      fun scheduler => permitsOut scheduler "https://example.com") =
        some (some [(2, 3 / 2), (1, 3 / 2)]) := by
    decide +kernel
  obtain ⟨scheduler, reached, out⟩ := Option.map_eq_some_iff.mp ran
  obtain ⟨entry, has, counts⟩ := Option.map_eq_some_iff.mp out
  have admits := always scheduler
    (schedulerRun_reaches (.start ⟨rfl, rfl⟩) (fun _ _ _ => trivial) reached) _ entry has
  obtain ⟨admission, member, count⟩ := List.mem_map.mp (counts ▸ List.mem_cons_self :
    ((2 : Nat), (3 / 2 : ℚ)) ∈ entry.admissions.map fun admission =>
      (admission.unreleased, admission.policy.maxConcurrency))
  have bound := admits.concurrency admission member
  rw [Prod.mk.injEq] at count
  rw [count.1, count.2] at bound
  norm_num at bound

/-- Under two concurrent requests, two are admitted at once. -/
theorem originScheduler_admits_two : ∃ scheduler,
    permitsOut scheduler "https://example.com" = some [(2, 2), (1, 2)] ∧
      ∀ origin entry, scheduler.entries.get? origin = some entry →
        AdmitsWithinPolicy entry.admissions := by
  have ran : ((schedulerRun .fresh (twoRequests (localPolicy 2 (by norm_num)))).map
      fun scheduler => permitsOut scheduler "https://example.com") =
        some (some [(2, 2), (1, 2)]) := by
    decide +kernel
  obtain ⟨scheduler, reached, out⟩ := Option.map_eq_some_iff.mp ran
  refine ⟨scheduler, out, originScheduler_admits ?_⟩
  refine schedulerRun_reaches (.start ⟨rfl, rfl⟩) (fun at' event member => ?_) reached
  have whole : WholeConcurrency (localPolicy 2 (by norm_num)) := ⟨2, rfl⟩
  simp only [twoRequests, List.mem_cons, List.not_mem_nil, or_false, or_self] at member
  rw [member]
  exact whole

end Klura
