import Klura.Call.Caller

/-! What one attempt of a call can come to, and the runs that its attempts make up. -/

namespace Klura

variable {capability : CalledCapabilityV1} {state : CallStateV1} {attempt : AttemptV1}

namespace CallStepV1

/-- The requests that the response of an attempt counted. -/
def reported (capability : CalledCapabilityV1) (step : CallStepV1) : Nat :=
  match step.attempt.answer with
  | .error _ => 0
  | .ok value =>
    match parseConsumedTargetRequests value (step.state.remaining capability) with
    | .error _ => 0
    | .ok consumed => consumed

/-- The requests that the error of an attempt counted. -/
def charged (capability : CalledCapabilityV1) (step : CallStepV1) : Nat :=
  match attemptBody capability step.state step.attempt with
  | (state, .error error) =>
    consumedTargetRequestsOnFailure error (state.remaining capability)
  | (_, .ok _) => 0

/-- The requests that an attempt counted. -/
def requests (capability : CalledCapabilityV1) (step : CallStepV1) : Nat :=
  step.reported capability + step.charged capability

/-- What the outcome contracts made of an attempt, when they were asked and gave an answer. -/
def evaluated (capability : CalledCapabilityV1) (step : CallStepV1) :
    Option OutcomeEvaluationResultV1 :=
  match step.attempt.answer with
  | .error _ => none
  | .ok value =>
    match parseConsumedTargetRequests value (step.state.remaining capability) with
    | .error _ => none
    | .ok _ => step.attempt.evaluation.toOption

end CallStepV1

/-- A state after another one of the same call, in which an attempt has counted its requests. -/
structure CallStateV1.Follows (next state : CallStateV1) (requests : Nat) : Prop where
  deadline : next.deadline = state.deadline
  strategies : next.strategies = state.strategies
  targetRequests : next.targetRequests = state.targetRequests + requests
  made : next.made = state.made

/-- What one attempt can come to. -/
inductive AttemptEnds (capability : CalledCapabilityV1) (step : CallStepV1) :
    AttemptFlowV1 → Prop where
  | observed {outcome : OutcomeV1}
      (evaluated : step.evaluated capability = some (.outcome outcome)) :
      AttemptEnds capability step (.resolved (.evaluated (.outcome outcome)
        (step.state.targetRequests + step.requests capability)))
  | cancelled {outcome : OutcomeV1} {failure : CallFailureV1}
      (evaluated : step.evaluated capability = some (.outcome outcome))
      (code : failure.code = .cancelled)
      (counts : failure.attempts = step.state.targetRequests + step.requests capability) :
      AttemptEnds capability step (.resolved (.failure failure))
  | failed {failure : CallFailureV1} (unevaluated : step.evaluated capability = none)
      (counts : failure.attempts = step.state.targetRequests + step.requests capability) :
      AttemptEnds capability step (.resolved (.failure failure))
  | interrupted {error : ExecutionErrorV1} (unevaluated : step.evaluated capability = none) :
      AttemptEnds capability step (.rejected error)
  | retried {next : CallStateV1}
      (outcome : ∀ evaluation, step.evaluated capability = some evaluation →
        evaluation.found.isSome)
      (follows : next.Follows step.state (step.requests capability))
      (retries : next.retries = step.state.retries + 1)
      (allowed : step.state.retries < capability.callRetryPolicy.maxRetries)
      (last : next.lastResult = step.state.lastResult) :
      AttemptEnds capability step (.retried next)
  | unrecognised {next : CallStateV1} {evaluation : OutcomeEvaluationResultV1}
      (evaluated : step.evaluated capability = some evaluation)
      (unfound : evaluation.found = none)
      (follows : next.Follows step.state (step.requests capability))
      (last : next.lastResult = some (.evaluated evaluation next.targetRequests)) :
      AttemptEnds capability step (.left next)
  | unreached {next : CallStateV1} {failure : CallFailureV1}
      (unevaluated : step.evaluated capability = none)
      (follows : next.Follows step.state (step.requests capability))
      (last : next.lastResult = some (.failure failure))
      (code : failure.code = .transportFailure ∨ failure.code = .requestTimeout)
      (counts : failure.attempts = next.targetRequests) :
      AttemptEnds capability step (.left next)

theorem parseConsumedTargetRequests_le {value : Option Int} {remaining consumed : Nat}
    (parses : parseConsumedTargetRequests value remaining = .ok consumed) :
    0 < consumed ∧ consumed ≤ remaining := by
  unfold parseConsumedTargetRequests at parses
  split at parses
  · split at parses
    · cases parses
    · cases parses
      omega
  · cases parses

theorem consumedTargetRequestsOnFailure_le (error : ExecutionErrorV1) (remaining : Nat) :
    consumedTargetRequestsOnFailure error remaining ≤ remaining := by
  unfold consumedTargetRequestsOnFailure
  split
  · omega
  · split
    · split
      · omega
      · split
        · omega
        · split <;> omega
    · omega

theorem mapExecutionError_attempts (error : ExecutionErrorV1) (attempts : Nat) :
    (mapExecutionError error attempts).attempts = attempts := by
  unfold mapExecutionError
  split <;> rfl

variable {thrown : CallStateV1} {error : ExecutionErrorV1}

theorem attemptOnce_thrown (body : attemptBody capability state attempt = (thrown, .error error)) :
    attemptOnce capability state attempt =
      handleExecutionError capability thrown attempt error := by
  unfold attemptOnce
  rw [body]

/-- What an attempt makes of an error that was thrown before the contracts had evaluated it. -/
theorem attemptOnce_unevaluated
    (body : attemptBody capability state attempt = (thrown, .error error))
    (unevaluated : CallStepV1.evaluated capability ⟨state, attempt⟩ = none)
    (follows : thrown.Follows state (CallStepV1.reported capability ⟨state, attempt⟩))
    (retries : thrown.retries = state.retries) (last : thrown.lastResult = state.lastResult) :
    AttemptEnds capability ⟨state, attempt⟩ (attemptOnce capability state attempt) := by
  have charged : CallStepV1.charged capability ⟨state, attempt⟩ =
      consumedTargetRequestsOnFailure error (thrown.remaining capability) := by
    simp [CallStepV1.charged, body]
  have total : thrown.targetRequests +
      consumedTargetRequestsOnFailure error (thrown.remaining capability) =
        state.targetRequests + CallStepV1.requests capability ⟨state, attempt⟩ := by
    unfold CallStepV1.requests
    rw [follows.targetRequests, charged]
    omega
  have attempts := mapExecutionError_attempts error (thrown.targetRequests +
    consumedTargetRequestsOnFailure error (thrown.remaining capability))
  rw [attemptOnce_thrown body]
  unfold handleExecutionError
  dsimp only
  split
  · rename_i retried
    unfold retriesFailure at retried
    simp only [decide_eq_true_eq] at retried
    split
    · exact .failed unevaluated (attempts.trans total)
    · split
      · exact .interrupted unevaluated
      · refine .retried (fun evaluation evaluated => ?_)
          ⟨follows.deadline, follows.strategies, total, follows.made⟩ ?_ ?_ last
        · rw [unevaluated] at evaluated
          cases evaluated
        · exact congrArg (· + 1) retries
        · rw [← retries]
          exact retried.2.2
  · split
    · rename_i code
      exact .unreached unevaluated ⟨follows.deadline, follows.strategies, total, follows.made⟩ rfl
        code attempts
    · exact .failed unevaluated (attempts.trans total)

theorem retriesOutcome_allowed {outcome : OutcomeV1}
    (retried : retriesOutcome capability state outcome = true) :
    state.retries < capability.callRetryPolicy.maxRetries := by
  unfold retriesOutcome at retried
  simp only [Bool.and_eq_true, decide_eq_true_eq] at retried
  exact retried.2

/-- What an attempt comes to once the contracts have evaluated it. -/
theorem attemptOnce_evaluated {consumed : Nat} {evaluation : OutcomeEvaluationResultV1}
    (body : attemptBody capability state attempt = settleEvaluation capability
      { state with targetRequests := state.targetRequests + consumed } attempt evaluation)
    (evaluated : CallStepV1.evaluated capability ⟨state, attempt⟩ = some evaluation)
    (reported : CallStepV1.reported capability ⟨state, attempt⟩ = consumed) :
    AttemptEnds capability ⟨state, attempt⟩ (attemptOnce capability state attempt) := by
  -- An attempt that throws nothing counts what its response reports.
  have counts {ending : CallStateV1} {ended : AttemptBodyV1}
      (settles : attemptBody capability state attempt = (ending, .ok ended)) :
      state.targetRequests + CallStepV1.requests capability ⟨state, attempt⟩ =
        state.targetRequests + consumed := by
    simp [CallStepV1.requests, CallStepV1.charged, reported, settles]
  cases evaluation with
  | outcome outcome =>
    have observes {ending : CallStateV1} (settles : attemptBody capability state attempt =
        (ending, .ok (.returned (.evaluated (.outcome outcome)
          (state.targetRequests + consumed))))) :
        AttemptEnds capability ⟨state, attempt⟩ (attemptOnce capability state attempt) := by
      unfold attemptOnce
      rw [settles, ← counts settles]
      exact .observed evaluated
    unfold settleEvaluation at body
    dsimp only at body
    split at body
    · rename_i retried
      split at body
      · exact observes body
      · cases waits : attempt.waitCompletes with
        | true =>
          simp only [waitForRetry, waits, if_true, Except.map] at body
          unfold attemptOnce
          rw [body]
          refine .retried (fun other same => ?_) ⟨rfl, rfl, (counts body).symm, rfl⟩ rfl
            (retriesOutcome_allowed retried) rfl
          rw [evaluated] at same
          cases same
          rfl
        | false =>
          -- The cancelled wait is thrown inside the guarded part, whose handler reports it.
          simp only [waitForRetry, waits, Bool.false_eq_true, if_false, Except.map] at body
          rw [attemptOnce_thrown body]
          have charged : CallStepV1.charged capability ⟨state, attempt⟩ = 0 := by
            simp [CallStepV1.charged, body, consumedTargetRequestsOnFailure]
          have free (remaining : Nat) : consumedTargetRequestsOnFailure
              (.publicHttp .cancelled "caller cancelled retry wait" 0 none none) remaining = 0 := by
            simp [consumedTargetRequestsOnFailure]
          have handled : handleExecutionError capability
              { state with targetRequests := state.targetRequests + consumed,
                           retries := state.retries + 1 } attempt
              (.publicHttp .cancelled "caller cancelled retry wait" 0 none none) =
                .resolved (.failure (mapExecutionError
                  (.publicHttp .cancelled "caller cancelled retry wait" 0 none none)
                  (state.targetRequests + consumed))) := by
            simp [handleExecutionError, free, retriesFailure, mapExecutionError,
              CallFailureV1.plain, PublicHttpErrorCodeV1.failureCode]
          rw [handled]
          refine .cancelled evaluated rfl ?_
          simp [CallStepV1.requests, reported, charged, mapExecutionError_attempts]
    · exact observes body
  | _ =>
    unfold attemptOnce
    rw [body]
    exact .unrecognised evaluated rfl ⟨rfl, rfl, (counts body).symm, rfl⟩ rfl

/-- What an attempt of a call can come to. -/
theorem attemptOnce_ends (capability : CalledCapabilityV1) (state : CallStateV1)
    (attempt : AttemptV1) :
    AttemptEnds capability ⟨state, attempt⟩ (attemptOnce capability state attempt) := by
  -- The cases follow the guarded part: its call, its count and its evaluation.
  cases answered : attempt.answer with
  | error error =>
    have body : attemptBody capability state attempt = (state, .error error) := by
      simp [attemptBody, answered]
    have none : CallStepV1.reported capability ⟨state, attempt⟩ = 0 := by
      simp [CallStepV1.reported, answered]
    refine attemptOnce_unevaluated body ?_ ⟨rfl, rfl, ?_, rfl⟩ rfl rfl
    · simp [CallStepV1.evaluated, answered]
    · rw [none, Nat.add_zero]
  | ok value =>
    cases parsed : parseConsumedTargetRequests value (state.remaining capability) with
    | error error =>
      have body : attemptBody capability state attempt = (state, .error error) := by
        simp [attemptBody, answered, parsed]
      have none : CallStepV1.reported capability ⟨state, attempt⟩ = 0 := by
        simp [CallStepV1.reported, answered, parsed]
      refine attemptOnce_unevaluated body ?_ ⟨rfl, rfl, ?_, rfl⟩ rfl rfl
      · simp [CallStepV1.evaluated, answered, parsed]
      · rw [none, Nat.add_zero]
    | ok consumed =>
      have reported : CallStepV1.reported capability ⟨state, attempt⟩ = consumed := by
        simp [CallStepV1.reported, answered, parsed]
      have evaluated : CallStepV1.evaluated capability ⟨state, attempt⟩ =
          attempt.evaluation.toOption := by
        simp [CallStepV1.evaluated, answered, parsed]
      cases evaluates : attempt.evaluation with
      | error error =>
        have body : attemptBody capability state attempt =
            ({ state with targetRequests := state.targetRequests + consumed }, .error error) := by
          simp [attemptBody, answered, parsed, evaluates]
        refine attemptOnce_unevaluated body ?_ ⟨rfl, rfl, ?_, rfl⟩ rfl rfl
        · rw [evaluated, evaluates]
          rfl
        · rw [reported]
      | ok evaluation =>
        have evaluated : CallStepV1.evaluated capability ⟨state, attempt⟩ = some evaluation := by
          rw [evaluated, evaluates]
          rfl
        refine attemptOnce_evaluated ?_ evaluated reported
        simp [attemptBody, answered, parsed, evaluates]

theorem attemptBody_counts (capability : CalledCapabilityV1) (state : CallStateV1)
    (attempt : AttemptV1) : (attemptBody capability state attempt).1.targetRequests =
      state.targetRequests + CallStepV1.reported capability ⟨state, attempt⟩ := by
  cases answered : attempt.answer with
  | error error => simp [attemptBody, CallStepV1.reported, answered]
  | ok value =>
    cases parsed : parseConsumedTargetRequests value (state.remaining capability) with
    | error error => simp [attemptBody, CallStepV1.reported, answered, parsed]
    | ok consumed =>
      simp only [attemptBody, CallStepV1.reported, answered, parsed]
      split
      · rfl
      · unfold settleEvaluation
        split
        · split
          · dsimp only
            split <;> rfl
          · rfl
        · rfl

theorem CallStepV1.requests_le (capability : CalledCapabilityV1) (step : CallStepV1)
    (room : step.state.targetRequests ≤ capability.maxTargetRequestsPerCall) :
    step.state.targetRequests + step.requests capability ≤
      capability.maxTargetRequestsPerCall := by
  obtain ⟨state, attempt⟩ := step
  have reported : CallStepV1.reported capability ⟨state, attempt⟩ ≤ state.remaining capability := by
    unfold CallStepV1.reported
    split
    · exact Nat.zero_le _
    · split
      · exact Nat.zero_le _
      · rename_i parsed
        exact (parseConsumedTargetRequests_le parsed).2
  have counts := attemptBody_counts capability state attempt
  unfold CallStepV1.requests CallStepV1.charged
  unfold CallStateV1.remaining at reported
  dsimp only at room ⊢
  split
  · -- The error counts no more than what is left once the response has been counted.
    rename_i thrown error body
    have counts : thrown.targetRequests =
        state.targetRequests + CallStepV1.reported capability ⟨state, attempt⟩ := by
      rw [← counts, body]
    have charged := consumedTargetRequestsOnFailure_le error (thrown.remaining capability)
    unfold CallStateV1.remaining at charged
    unfold CallStateV1.remaining
    omega
  · omega

/-- The runs of a call's loops from a state on. -/
inductive CallRuns (capability : CalledCapabilityV1) : CallStateV1 → CallRunV1 → Prop where
  | exhausted {state : CallStateV1} (none : state.strategies = []) :
      CallRuns capability state (.settled (state.lastResult.getD
        (.failure (.plain .transportFailure state.targetRequests))))
  | passed {state : CallStateV1} {run : CallRunV1} (some : state.strategies ≠ [])
      (spent : capability.maxTargetRequestsPerCall ≤ state.targetRequests)
      (goes : CallRuns capability state.nextStrategy run) : CallRuns capability state run
  | late {state : CallStateV1} (some : state.strategies ≠ [])
      (room : state.targetRequests < capability.maxTargetRequestsPerCall) :
      CallRuns capability state
        (.settled (.failure (.plain .requestTimeout state.targetRequests)))
  | resolved {state : CallStateV1} {attempt : AttemptV1} {result : CallResultV1}
      (some : state.strategies ≠ [])
      (room : state.targetRequests < capability.maxTargetRequestsPerCall)
      (flow : attemptOnce capability state attempt = .resolved result) :
      CallRuns capability state { steps := [⟨state, attempt⟩], settlement := .ok result }
  | rejected {state : CallStateV1} {attempt : AttemptV1} {error : ExecutionErrorV1}
      (some : state.strategies ≠ [])
      (room : state.targetRequests < capability.maxTargetRequestsPerCall)
      (flow : attemptOnce capability state attempt = .rejected error) :
      CallRuns capability state { steps := [⟨state, attempt⟩], settlement := .error error }
  | retried {state next : CallStateV1} {attempt : AttemptV1} {run : CallRunV1}
      (some : state.strategies ≠ [])
      (room : state.targetRequests < capability.maxTargetRequestsPerCall)
      (flow : attemptOnce capability state attempt = .retried next)
      (goes : CallRuns capability next.counted run) :
      CallRuns capability state (run.after ⟨state, attempt⟩)
  | left {state next : CallStateV1} {attempt : AttemptV1} {run : CallRunV1}
      (some : state.strategies ≠ [])
      (room : state.targetRequests < capability.maxTargetRequestsPerCall)
      (flow : attemptOnce capability state attempt = .left next)
      (goes : CallRuns capability next.counted.nextStrategy run) :
      CallRuns capability state (run.after ⟨state, attempt⟩)

/-- The turns that the loops of a call can still take from a state. -/
def CallStateV1.turns (capability : CalledCapabilityV1) (state : CallStateV1) : Nat :=
  (state.strategies.length + 1) * (capability.callRetryPolicy.maxRetries + 1) - state.retries

theorem CallStateV1.nextStrategy_turns {state : CallStateV1} (some : state.strategies ≠ [])
    (retries : state.retries ≤ capability.callRetryPolicy.maxRetries) :
    state.nextStrategy.turns capability < state.turns capability := by
  unfold CallStateV1.turns CallStateV1.nextStrategy
  cases held : state.strategies with
  | nil => exact absurd held some
  | cons strategy rest =>
    simp only [List.tail_cons, List.length_cons, Nat.add_mul, Nat.one_mul]
    omega

/-- The loops of a call end, when they have fuel for each turn they may take. -/
theorem callLoop_runs (attempts : Nat → AttemptV1) (fuel : Nat) (state : CallStateV1)
    (retries : state.retries ≤ capability.callRetryPolicy.maxRetries)
    (enough : state.turns capability ≤ fuel) :
    ∃ run, callLoop capability attempts fuel state = some run ∧ CallRuns capability state run := by
  induction fuel generalizing state with
  | zero =>
    unfold CallStateV1.turns at enough
    rw [Nat.add_mul] at enough
    omega
  | succ fuel ih =>
    unfold callLoop
    by_cases done : state.strategies = []
    · exact ⟨_, if_pos (List.isEmpty_iff.mpr done), .exhausted done⟩
    · rw [if_neg (mt List.isEmpty_iff.mp done)]
      have passes := CallStateV1.nextStrategy_turns done retries
      by_cases spent : capability.maxTargetRequestsPerCall ≤ state.targetRequests
      · rw [if_pos spent]
        obtain ⟨run, loops, runs⟩ := ih state.nextStrategy (Nat.zero_le _) (by omega)
        exact ⟨run, loops, .passed done spent runs⟩
      · rw [if_neg spent]
        have room := Nat.lt_of_not_le spent
        dsimp only
        split
        · exact ⟨_, rfl, .late done room⟩
        · have ends := attemptOnce_ends capability state (attempts state.made)
          cases flow : attemptOnce capability state (attempts state.made) with
          | resolved result => exact ⟨_, rfl, .resolved done room flow⟩
          | rejected error => exact ⟨_, rfl, .rejected done room flow⟩
          | retried next =>
            rw [flow] at ends
            cases ends with
            | retried outcome follows again allowed last =>
              have turns : next.counted.turns capability < state.turns capability := by
                unfold CallStateV1.turns CallStateV1.counted
                rw [follows.strategies, again, Nat.add_mul]
                dsimp only at allowed ⊢
                omega
              obtain ⟨run, loops, runs⟩ := ih next.counted (by
                show next.retries ≤ _
                rw [again]
                exact allowed) (by omega)
              refine ⟨run.after ⟨state, attempts state.made⟩, ?_, .retried done room flow runs⟩
              dsimp only
              rw [loops]
              rfl
          | left next =>
            rw [flow] at ends
            have strategies : next.strategies = state.strategies := by
              cases ends with
              | unrecognised evaluated unfound follows last => exact follows.strategies
              | unreached unevaluated follows last code counts => exact follows.strategies
            have turns : next.counted.nextStrategy.turns capability =
                state.nextStrategy.turns capability := by
              unfold CallStateV1.turns CallStateV1.nextStrategy CallStateV1.counted
              rw [strategies]
            obtain ⟨run, loops, runs⟩ := ih next.counted.nextStrategy (Nat.zero_le _) (by omega)
            refine ⟨run.after ⟨state, attempts state.made⟩, ?_, .left done room flow runs⟩
            dsimp only
            rw [loops]
            rfl

theorem call_runs (capability : CalledCapabilityV1) (options : PublicCallOptionsV1)
    (startedAt : Int) (attempts : Nat → AttemptV1) :
    ∃ run, call capability options startedAt attempts = some run ∧
      ((∃ code, run = .settled (.failure (.plain code 0))) ∨
        ∃ deadline, CallRuns capability (capability.begin deadline) run) := by
  unfold call
  dsimp only
  split
  · exact ⟨_, rfl, .inl ⟨_, rfl⟩⟩
  · split
    · exact ⟨_, rfl, .inl ⟨_, rfl⟩⟩
    · split
      · exact ⟨_, rfl, .inl ⟨_, rfl⟩⟩
      · rename_i totalTimeout _ _
        obtain ⟨run, loops, runs⟩ := callLoop_runs attempts capability.turns
          (capability.begin (startedAt + totalTimeout)) (Nat.zero_le _) (Nat.sub_le _ _)
        exact ⟨run, loops, .inr ⟨_, runs⟩⟩

end Klura
