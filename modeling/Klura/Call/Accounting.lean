import Klura.Call.Attempt

/-! The target requests of a call are all reported by its result, and never more than it may make. -/

namespace Klura

variable {capability : CalledCapabilityV1} {state : CallStateV1} {run : CallRunV1}

/-- The requests that all attempts of a call counted. -/
def CallRunV1.requests (capability : CalledCapabilityV1) (run : CallRunV1) : Nat :=
  (run.steps.map (CallStepV1.requests capability)).sum

/-- The result of a call reports the requests that its attempts counted, which the capability
allows. -/
structure CallRunV1.Accounts (capability : CalledCapabilityV1) (run : CallRunV1) : Prop where
  reports : ∀ result, run.settlement = .ok result → result.attempts = run.requests capability
  allowed : run.requests capability ≤ capability.maxTargetRequestsPerCall

/-- An attempt that the policy retries although it has spent the last request of its call, while an
earlier strategy has left a result behind. -/
structure CallStepV1.SpendsLastRequest (capability : CalledCapabilityV1) (step : CallStepV1) :
    Prop where
  earlier : step.state.lastResult.isSome
  retried : ∃ next, attemptOnce capability step.state step.attempt = .retried next
  spent : step.state.targetRequests + step.requests capability =
    capability.maxTargetRequestsPerCall

theorem CallRunV1.requests_after (step : CallStepV1) (run : CallRunV1) :
    (run.after step).requests capability = step.requests capability + run.requests capability := by
  unfold CallRunV1.requests CallRunV1.after
  rw [List.map_cons, List.sum_cons]

theorem CallRuns.spent (runs : CallRuns capability state run)
    (spent : capability.maxTargetRequestsPerCall ≤ state.targetRequests) :
    run = .settled (state.lastResult.getD
      (.failure (.plain .transportFailure state.targetRequests))) := by
  induction runs with
  | exhausted none => rfl
  | passed some _ goes ih => exact ih spent
  | late some room => omega
  | resolved some room flow => omega
  | rejected some room flow => omega
  | retried some room flow goes => omega
  | left some room flow goes => omega

/-- The result a call has at hand counts no request that it has not made, and all of them when the
call has nothing left to attempt. -/
def CallStateV1.Current (capability : CalledCapabilityV1) (state : CallStateV1) : Prop :=
  ∀ result, state.lastResult = some result → result.attempts ≤ state.targetRequests ∧
    (state.strategies = [] ∨ capability.maxTargetRequestsPerCall ≤ state.targetRequests →
      result.attempts = state.targetRequests)

/-- The attempts of a call count no more requests than it has left. -/
theorem CallRuns.requests_le (runs : CallRuns capability state run)
    (room : state.targetRequests ≤ capability.maxTargetRequestsPerCall) :
    state.targetRequests + run.requests capability ≤ capability.maxTargetRequestsPerCall := by
  induction runs with
  | exhausted none => exact room
  | passed some spent goes ih => exact ih room
  | late some _ => exact room
  | @resolved state attempt result some _ flow =>
    simpa [CallRunV1.requests] using CallStepV1.requests_le capability ⟨state, attempt⟩ room
  | @rejected state attempt error some _ flow =>
    simpa [CallRunV1.requests] using CallStepV1.requests_le capability ⟨state, attempt⟩ room
  | @retried state next attempt run some _ flow goes ih =>
    have fits : state.targetRequests + CallStepV1.requests capability ⟨state, attempt⟩ ≤
        capability.maxTargetRequestsPerCall := CallStepV1.requests_le capability ⟨state, attempt⟩ room
    have ends := attemptOnce_ends capability state attempt
    rw [flow] at ends
    cases ends with
    | retried outcome follows again allowed last =>
      have counts : next.counted.targetRequests =
          state.targetRequests + CallStepV1.requests capability ⟨state, attempt⟩ :=
        follows.targetRequests
      have later := ih (by omega)
      rw [CallRunV1.requests_after]
      omega
  | @left state next attempt run some _ flow goes ih =>
    have fits : state.targetRequests + CallStepV1.requests capability ⟨state, attempt⟩ ≤
        capability.maxTargetRequestsPerCall := CallStepV1.requests_le capability ⟨state, attempt⟩ room
    have ends := attemptOnce_ends capability state attempt
    rw [flow] at ends
    have counts : next.counted.nextStrategy.targetRequests =
        state.targetRequests + CallStepV1.requests capability ⟨state, attempt⟩ := by
      cases ends with
      | unrecognised evaluated unfound follows last => exact follows.targetRequests
      | unreached unevaluated follows last code counts => exact follows.targetRequests
    have later := ih (by omega)
    rw [CallRunV1.requests_after]
    omega

/-- From a state whose result at hand is current, a call reports every request it counts exactly
when no attempt is retried for which there is no request left. -/
theorem CallRuns.reports (runs : CallRuns capability state run)
    (room : state.targetRequests ≤ capability.maxTargetRequestsPerCall)
    (current : state.Current capability) :
    (∀ result, run.settlement = .ok result →
      result.attempts = state.targetRequests + run.requests capability) ↔
        ∀ step ∈ run.steps, ¬step.SpendsLastRequest capability := by
  induction runs with
  | @exhausted state none =>
    refine ⟨fun _ _ member => absurd member List.not_mem_nil, fun _ result settled => ?_⟩
    cases settled
    show (state.lastResult.getD _).attempts = state.targetRequests
    cases last : state.lastResult with
    | none => rfl
    | some result => exact (current result last).2 (.inl none)
  | @passed state run some spent goes ih =>
    exact ih room fun result last => ⟨(current result last).1, fun _ =>
      (current result last).2 (.inr spent)⟩
  | late some _ =>
    refine ⟨fun _ _ member => absurd member List.not_mem_nil, fun _ result settled => ?_⟩
    cases settled
    rfl
  | @resolved state attempt result some _ flow =>
    refine ⟨fun _ step member spends => ?_, fun _ other settled => ?_⟩
    · rw [List.mem_singleton.mp member] at spends
      obtain ⟨next, retried⟩ := spends.retried
      rw [flow] at retried
      cases retried
    · cases settled
      have ends := attemptOnce_ends capability state attempt
      rw [flow] at ends
      have total : CallRunV1.requests capability
          { steps := [⟨state, attempt⟩], settlement := .ok result } =
            CallStepV1.requests capability ⟨state, attempt⟩ := Nat.add_zero _
      rw [total]
      cases ends with
      | observed evaluated => rfl
      | cancelled evaluated code counts => exact counts
      | failed unevaluated counts => exact counts
  | @rejected state attempt error some _ flow =>
    refine ⟨fun _ step member spends => ?_, fun _ other settled => by cases settled⟩
    rw [List.mem_singleton.mp member] at spends
    obtain ⟨next, retried⟩ := spends.retried
    rw [flow] at retried
    cases retried
  | @retried state next attempt run some below flow goes ih =>
    have fits : state.targetRequests + CallStepV1.requests capability ⟨state, attempt⟩ ≤
        capability.maxTargetRequestsPerCall := CallStepV1.requests_le capability ⟨state, attempt⟩ room
    have ends := attemptOnce_ends capability state attempt
    rw [flow] at ends
    cases ends with
    | retried outcome follows again allowed last =>
      have counts : next.counted.targetRequests =
          state.targetRequests + CallStepV1.requests capability ⟨state, attempt⟩ :=
        follows.targetRequests
      have held : next.counted.lastResult = state.lastResult := last
      rw [CallRunV1.requests_after, ← Nat.add_assoc, ← counts]
      by_cases spends : CallStepV1.SpendsLastRequest capability ⟨state, attempt⟩
      · -- The call ends with a result that an earlier strategy has left behind.
        refine iff_of_false (fun reports => ?_) fun clean => clean _ List.mem_cons_self spends
        have full : capability.maxTargetRequestsPerCall ≤ next.counted.targetRequests := by
          rw [counts, spends.spent]
        obtain ⟨result, earlier⟩ := Option.isSome_iff_exists.mp spends.earlier
        have ended := goes.spent full
        rw [held, earlier] at ended
        have stale := reports result (by rw [ended]; rfl)
        have before := (current result earlier).1
        omega
      · have later : next.counted.Current capability := by
          intro result kept
          rw [held] at kept
          have before := (current result kept).1
          refine ⟨by omega, fun ends => ?_⟩
          rcases ends with done | full
          · exact absurd (follows.strategies.symm.trans done) some
          · exact absurd ⟨by rw [kept]; rfl, ⟨next, flow⟩, by dsimp only; omega⟩ spends
        rw [show (run.after ⟨state, attempt⟩).settlement = run.settlement from rfl,
          ih (by omega) later]
        show _ ↔ ∀ step ∈ _ :: run.steps, _
        rw [List.forall_mem_cons]
        exact (and_iff_right spends).symm
  | @left state next attempt run some below flow goes ih =>
    have fits : state.targetRequests + CallStepV1.requests capability ⟨state, attempt⟩ ≤
        capability.maxTargetRequestsPerCall := CallStepV1.requests_le capability ⟨state, attempt⟩ room
    have ends := attemptOnce_ends capability state attempt
    rw [flow] at ends
    have kept : next.targetRequests =
        state.targetRequests + CallStepV1.requests capability ⟨state, attempt⟩ ∧
          ∀ result, next.lastResult = Option.some result → result.attempts = next.targetRequests := by
      cases ends with
      | unrecognised evaluated unfound follows last =>
        refine ⟨follows.targetRequests, fun result same => ?_⟩
        rw [last] at same
        cases same
        rfl
      | unreached unevaluated follows last code counts =>
        refine ⟨follows.targetRequests, fun result same => ?_⟩
        rw [last] at same
        cases same
        exact counts
    have later : next.counted.nextStrategy.Current capability := fun result last =>
      ⟨(kept.2 result last).le, fun _ => kept.2 result last⟩
    have clean : ¬CallStepV1.SpendsLastRequest capability ⟨state, attempt⟩ := by
      intro spends
      obtain ⟨other, retried⟩ := spends.retried
      rw [flow] at retried
      cases retried
    have reports := ih (by show next.targetRequests ≤ _; omega) later
    rw [CallRunV1.requests_after, ← Nat.add_assoc, ← kept.1]
    refine Iff.trans reports ?_
    show _ ↔ ∀ step ∈ _ :: run.steps, _
    rw [List.forall_mem_cons]
    exact (and_iff_right clean).symm

/-- A call's result reports every request that its attempts counted, exactly when no attempt is
retried after it has spent the last request while an earlier strategy's result is at hand. -/
theorem call_accounts (capability : CalledCapabilityV1) (options : PublicCallOptionsV1)
    (startedAt : Int) (attempts : Nat → AttemptV1) :
    ∃ run, call capability options startedAt attempts = some run ∧
      (run.Accounts capability ↔ ∀ step ∈ run.steps, ¬step.SpendsLastRequest capability) := by
  obtain ⟨run, calls, how⟩ := call_runs capability options startedAt attempts
  refine ⟨run, calls, ?_⟩
  rcases how with ⟨code, rfl⟩ | ⟨deadline, runs⟩
  · refine ⟨fun _ _ member => absurd member List.not_mem_nil, fun _ => ⟨?_, Nat.zero_le _⟩⟩
    intro result settled
    cases settled
    rfl
  · have allowed := runs.requests_le (Nat.zero_le _)
    have reports := runs.reports (Nat.zero_le _) fun result last => by cases last
    simp only [CalledCapabilityV1.begin, Nat.zero_add] at allowed reports
    exact ⟨fun accounts => reports.mp accounts.reports, fun clean => ⟨reports.mpr clean, allowed⟩⟩

theorem page_stable : isStableIdentifier "page" = true := by decide

/-- A capability with two strategies that may retry a rate-limited call once. -/
def twoStrategyCapability : CalledCapabilityV1 where
  requiresSession := false
  totalTimeoutMs := 60000
  maxTargetRequestsPerCall := 2
  callRetryPolicy :=
    { maxRetries := 1, on := [.rateLimited], baseDelayMs := 100, maxDelayMs := 1000,
      jitterRatio := 0, honorStructuralRetryAfter := false, few := by decide, once := by decide,
      unretried := by decide, base := by decide, maximum := by decide,
      jitter := by norm_num }
  strategies := [⟨"api", by decide⟩, ⟨"page", page_stable⟩]
  covers := by decide

/-- An attempt that is answered at once with one request and an evaluation. -/
def answeredAttempt (evaluation : OutcomeEvaluationResultV1) : AttemptV1 :=
  { startedAt := 0, answer := .ok (some 1), evaluation := .ok evaluation, random := none,
    weighedAt := 0, waitCompletes := true }

/-- An outcome by which the target limits the rate of its callers. -/
def rateLimitedOutcome : OutcomeV1 :=
  { outcomeId := ⟨"rate_limited", by decide⟩, outcomeClass := .rateLimited,
    caseId := ⟨"status_429", by decide⟩, data := none, retryAfterMs := none }

/-- The first strategy's response is not recognised, and the second one's is rate limited. -/
def limitedAttempts : Nat → AttemptV1
  | 0 => answeredAttempt (.unclassifiedResponse "no matcher accepted the response")
  | _ => answeredAttempt (.outcome rateLimitedOutcome)

/-- A call without options. -/
def plainOptions : PublicCallOptionsV1 := { timeoutMs := none, hasBrowserStorageState := false }

/-- A call that makes two requests reports one of them. -/
theorem call_underreports : ¬∀ run,
    call twoStrategyCapability plainOptions 0 limitedAttempts = some run →
      run.Accounts twoStrategyCapability := by
  have counts : (call twoStrategyCapability plainOptions 0 limitedAttempts).map (fun run =>
      (run.settlement.toOption.map CallResultV1.attempts, run.requests twoStrategyCapability)) =
        some (some 1, 2) := by decide +kernel
  intro accounts
  obtain ⟨run, calls, same⟩ := Option.map_eq_some_iff.mp counts
  obtain ⟨settled, made⟩ := Prod.mk.inj same
  obtain ⟨result, resolves, attempts⟩ := Option.map_eq_some_iff.mp settled
  have reports := (accounts run calls).reports result (by
    cases settlement : run.settlement with
    | ok value =>
      rw [settlement] at resolves
      cases resolves
      rfl
    | error error =>
      rw [settlement] at resolves
      cases resolves)
  rw [attempts, made] at reports
  cases reports

end Klura
