import Klura.Call.Accounting

/-! A call resolves, and an outcome that the target has given last is what it resolves to. -/

namespace Klura

variable {capability : CalledCapabilityV1} {state : CallStateV1} {run : CallRunV1}

/-- The outcome that the last evaluated attempt produced, when it produced one. -/
def lastOutcome (capability : CalledCapabilityV1) (steps : List CallStepV1) : Option OutcomeV1 :=
  ((steps.filterMap (CallStepV1.evaluated capability)).getLast?).bind
    OutcomeEvaluationResultV1.found

/-- A failure that may stand in for an outcome. -/
def CallFailureV1.Excuses (failure : CallFailureV1) : Prop :=
  failure.code = .cancelled ∨ failure.code = .requestTimeout

/-- A result keeps an outcome: it is that outcome, or an excuse, after as many requests. -/
inductive CallResultV1.Keeps (outcome : OutcomeV1) (requests : Nat) : CallResultV1 → Prop where
  | observed : Keeps outcome requests (.evaluated (.outcome outcome) requests)
  | excused {failure : CallFailureV1} (excuses : failure.Excuses)
      (counts : failure.attempts = requests) : Keeps outcome requests (.failure failure)

/-- A run resolves, and keeps the outcome that its last evaluated attempt produced. -/
def CallRunV1.KeepsOutcome (capability : CalledCapabilityV1) (run : CallRunV1) : Prop :=
  ∃ result, run.settlement = .ok result ∧
    ∀ outcome, lastOutcome capability run.steps = some outcome →
      result.Keeps outcome (run.requests capability)

/-- An attempt by which a call loses the outcome it has observed last, or rejects. -/
inductive LosesOutcome (capability : CalledCapabilityV1) (earlier : List CallStepV1)
    (step : CallStepV1) : Prop where
  /-- A cancellation cuts the wait short that follows a transport failure. -/
  | interrupted {error : ExecutionErrorV1}
      (flow : attemptOnce capability step.state step.attempt = .rejected error)
  /-- The attempt is retried with its last request spent. -/
  | unpaid {next : CallStateV1}
      (flow : attemptOnce capability step.state step.attempt = .retried next)
      (spent : step.state.targetRequests + step.requests capability =
        capability.maxTargetRequestsPerCall)
      (observed : (lastOutcome capability (earlier ++ [step])).isSome)
  /-- The attempt fails for good. -/
  | failed {failure : CallFailureV1}
      (flow : attemptOnce capability step.state step.attempt = .resolved (.failure failure))
      (unexcused : ¬failure.Excuses)
      (observed : (lastOutcome capability (earlier ++ [step])).isSome)
  /-- The attempt fails, and there is no later strategy or no request left. -/
  | unreached {next : CallStateV1} {failure : CallFailureV1}
      (flow : attemptOnce capability step.state step.attempt = .left next)
      (last : next.lastResult = some (.failure failure)) (unexcused : ¬failure.Excuses)
      (ends : step.state.strategies.tail = [] ∨ step.state.targetRequests +
        step.requests capability = capability.maxTargetRequestsPerCall)
      (observed : (lastOutcome capability (earlier ++ [step])).isSome)

/-- No attempt of a run loses an outcome, after the attempts that were made earlier. -/
def KeepsThrough (capability : CalledCapabilityV1) (earlier steps : List CallStepV1) : Prop :=
  ∀ before step after, steps = before ++ step :: after →
    ¬LosesOutcome capability (earlier ++ before) step

theorem KeepsThrough.nil (earlier : List CallStepV1) : KeepsThrough capability earlier [] := by
  intro before step after splits
  exact absurd splits.symm (List.append_ne_nil_of_right_ne_nil before (List.cons_ne_nil _ _))

theorem keepsThrough_cons {earlier rest : List CallStepV1} {step : CallStepV1} :
    KeepsThrough capability earlier (step :: rest) ↔
      ¬LosesOutcome capability earlier step ∧ KeepsThrough capability (earlier ++ [step]) rest := by
  constructor
  · intro keeps
    refine ⟨?_, fun before other after splits => ?_⟩
    · have first := keeps [] step rest rfl
      rwa [List.append_nil] at first
    · have later := keeps (step :: before) other after (by rw [splits]; rfl)
      rwa [List.append_assoc]
  · rintro ⟨first, later⟩ before other after splits
    cases before with
    | nil =>
      cases splits
      rwa [List.append_nil]
    | cons head before =>
      cases splits
      have kept := later before other after rfl
      rwa [List.append_assoc] at kept

theorem lastOutcome_evaluated {earlier : List CallStepV1} {step : CallStepV1}
    {evaluation : OutcomeEvaluationResultV1}
    (evaluated : step.evaluated capability = some evaluation) :
    lastOutcome capability (earlier ++ [step]) = evaluation.found := by
  unfold lastOutcome
  rw [List.filterMap_append, List.filterMap_cons_some evaluated, List.filterMap_nil,
    List.getLast?_append]
  rfl

/-- What a call knows after some attempts: it has counted their requests, the result it has at hand
is no newer, and an outcome that was observed last is attempted again or excused. -/
structure CallStateV1.Observes (capability : CalledCapabilityV1) (state : CallStateV1)
    (earlier : List CallStepV1) : Prop where
  counts : state.targetRequests = (earlier.map (CallStepV1.requests capability)).sum
  room : state.targetRequests ≤ capability.maxTargetRequestsPerCall
  last : ∀ result, state.lastResult = some result → result.attempts ≤ state.targetRequests
  outcome : (lastOutcome capability earlier).isSome →
    (state.strategies ≠ [] ∧ state.targetRequests < capability.maxTargetRequestsPerCall) ∨
      ∃ failure, state.lastResult = some (.failure failure) ∧ failure.Excuses ∧
        failure.attempts = state.targetRequests

variable {outcome : OutcomeV1} {requests : Nat}

theorem keeps_failure {failure : CallFailureV1} (counts : failure.attempts = requests) :
    (CallResultV1.failure failure).Keeps outcome requests ↔ failure.Excuses := by
  constructor
  · intro keeps
    cases keeps with
    | excused excuses _ => exact excuses
  · exact fun excuses => .excused excuses counts

variable {result : CallResultV1}

theorem CallResultV1.Keeps.attempts (keeps : result.Keeps outcome requests) :
    result.attempts = requests := by
  cases keeps with
  | observed => rfl
  | excused _ counts => exact counts

/-- A run resolves, after some attempts, to what keeps the outcome observed last. -/
def CallRunV1.ResolvesAfter (capability : CalledCapabilityV1) (earlier : List CallStepV1)
    (run : CallRunV1) (requests : Nat) : Prop :=
  ∃ result, run.settlement = .ok result ∧
    ∀ outcome, lastOutcome capability (earlier ++ run.steps) = some outcome →
      result.Keeps outcome requests

section Attempts

variable {earlier : List CallStepV1} {step : CallStepV1} {next : CallStateV1}

theorem CallStateV1.Observes.retried (observes : step.state.Observes capability earlier)
    (some : step.state.strategies ≠ [])
    (follows : next.Follows step.state (step.requests capability))
    (last : next.lastResult = step.state.lastResult)
    (paid : (lastOutcome capability (earlier ++ [step])).isSome →
      next.targetRequests < capability.maxTargetRequestsPerCall) :
    next.counted.Observes capability (earlier ++ [step]) where
  counts := by
    show next.targetRequests = _
    rw [follows.targetRequests, observes.counts, List.map_append, List.sum_append]
    simp
  room := by
    show next.targetRequests ≤ _
    rw [follows.targetRequests]
    exact step.requests_le capability observes.room
  last := fun result held => by
    have held : next.lastResult = Option.some result := held
    rw [last] at held
    have before := observes.last result held
    show result.attempts ≤ next.targetRequests
    rw [follows.targetRequests]
    omega
  outcome := fun observed => by
    refine .inl ⟨?_, paid observed⟩
    show next.strategies ≠ []
    rw [follows.strategies]
    exact some

theorem CallStateV1.Observes.left {result : CallResultV1}
    (observes : step.state.Observes capability earlier)
    (follows : next.Follows step.state (step.requests capability))
    (last : next.lastResult = some result) (counts : result.attempts = next.targetRequests)
    (outcome : (lastOutcome capability (earlier ++ [step])).isSome →
      (step.state.strategies.tail ≠ [] ∧
        next.targetRequests < capability.maxTargetRequestsPerCall) ∨
      ∃ failure, result = .failure failure ∧ failure.Excuses) :
    next.counted.nextStrategy.Observes capability (earlier ++ [step]) where
  counts := by
    show next.targetRequests = _
    rw [follows.targetRequests, observes.counts, List.map_append, List.sum_append]
    simp
  room := by
    show next.targetRequests ≤ _
    rw [follows.targetRequests]
    exact step.requests_le capability observes.room
  last := fun held same => by
    have same : next.lastResult = some held := same
    rw [last] at same
    cases same
    exact counts.le
  outcome := fun observed => by
    rcases outcome observed with ⟨later, room⟩ | ⟨failure, rfl, excuses⟩
    · refine .inl ⟨?_, room⟩
      show next.strategies.tail ≠ []
      rw [follows.strategies]
      exact later
    · exact .inr ⟨failure, last, excuses, counts⟩

theorem CallRunV1.resolvesAfter_after {run : CallRunV1} {before after : Nat}
    (counts : after = before + step.requests capability) :
    (run.after step).ResolvesAfter capability earlier
        (before + (run.after step).requests capability) ↔
      run.ResolvesAfter capability (earlier ++ [step]) (after + run.requests capability) := by
  unfold CallRunV1.ResolvesAfter
  rw [CallRunV1.requests_after, ← Nat.add_assoc, ← counts]
  show (∃ result, run.settlement = _ ∧ ∀ outcome,
    lastOutcome capability (earlier ++ step :: run.steps) = _ → _) ↔ _
  rw [List.append_assoc]
  rfl

theorem kept_of_unobserved (flow : ∀ error,
      attemptOnce capability step.state step.attempt ≠ .rejected error)
    (unobserved : lastOutcome capability (earlier ++ [step]) = none) :
    ¬LosesOutcome capability earlier step := by
  intro loses
  cases loses with
  | interrupted rejected => exact flow _ rejected
  | unpaid _ _ observed | failed _ _ observed | unreached _ _ _ _ observed =>
    rw [unobserved] at observed
    cases observed

end Attempts

theorem CallRunV1.settled_loses {earlier : List CallStepV1}
    (observed : lastOutcome capability earlier = some outcome)
    (lost : ¬result.Keeps outcome (requests + 0)) :
    ¬(CallRunV1.settled result).ResolvesAfter capability earlier
      (requests + (CallRunV1.settled result).requests capability) := by
  rintro ⟨other, settled, keeps⟩
  cases settled
  refine lost (keeps outcome ?_)
  show lastOutcome capability (earlier ++ []) = _
  rw [List.append_nil]
  exact observed

theorem CallRuns.done (runs : CallRuns capability state run) (done : state.strategies = []) :
    run = .settled (state.lastResult.getD
      (.failure (.plain .transportFailure state.targetRequests))) := by
  cases runs with
  | exhausted none => rfl
  | passed some _ _ | late some _ | resolved some _ _ | rejected some _ _ | retried some _ _ _
  | left some _ _ _ => exact absurd done some

theorem CallRunV1.requests_single (step : CallStepV1)
    (settlement : Except ExecutionErrorV1 CallResultV1) :
    CallRunV1.requests capability { steps := [step], settlement } = step.requests capability :=
  Nat.add_zero _

theorem keepsThrough_single {earlier : List CallStepV1} {step : CallStepV1} :
    KeepsThrough capability earlier [step] ↔ ¬LosesOutcome capability earlier step := by
  rw [keepsThrough_cons]
  exact and_iff_left (KeepsThrough.nil _)

/-- From a state that knows what was observed, a call keeps the last outcome exactly when no attempt
loses one. -/
theorem CallRuns.keepsOutcome (runs : CallRuns capability state run) (earlier : List CallStepV1)
    (observes : state.Observes capability earlier) :
    run.ResolvesAfter capability earlier (state.targetRequests + run.requests capability) ↔
      KeepsThrough capability earlier run.steps := by
  induction runs generalizing earlier with
  | @exhausted state none =>
    refine iff_of_true ⟨_, rfl, fun outcome observed => ?_⟩ (KeepsThrough.nil earlier)
    have observed : lastOutcome capability (earlier ++ []) = some outcome := observed
    rw [List.append_nil] at observed
    rcases observes.outcome (by rw [observed]; rfl) with ⟨some, _⟩ | ⟨failure, last, excuses, counts⟩
    · exact absurd none some
    · rw [last]
      exact .excused excuses counts
  | @passed state run some spent goes ih =>
    refine ih earlier ⟨observes.counts, observes.room, observes.last, fun observed => ?_⟩
    rcases observes.outcome observed with ⟨_, room⟩ | excused
    · omega
    · exact .inr excused
  | late some room =>
    exact iff_of_true ⟨_, rfl, fun outcome observed => .excused (.inr rfl) rfl⟩
      (KeepsThrough.nil earlier)
  | @resolved state attempt result some room flow =>
    have ends := attemptOnce_ends capability state attempt
    rw [flow] at ends
    rw [keepsThrough_single, CallRunV1.requests_single]
    have unlost (unfailed : ∀ failure, result = .failure failure → failure.Excuses) :
        ¬LosesOutcome capability earlier ⟨state, attempt⟩ := by
      intro loses
      cases loses with
      | failed failing unexcused _ =>
        rw [flow] at failing
        cases failing
        exact unexcused (unfailed _ rfl)
      | interrupted other | unpaid other _ _ | unreached other _ _ _ _ =>
        rw [flow] at other
        cases other
    cases ends with
    | observed evaluated =>
      refine iff_of_true ⟨_, rfl, fun other observed => ?_⟩ (unlost fun _ same => by cases same)
      have same : lastOutcome capability (earlier ++ [⟨state, attempt⟩]) = _ :=
        lastOutcome_evaluated evaluated
      rw [same] at observed
      cases observed
      exact .observed
    | cancelled evaluated code counts =>
      refine iff_of_true ⟨_, rfl, fun other observed => .excused (.inl code) counts⟩
        (unlost fun _ same => ?_)
      cases same
      exact .inl code
    | @failed failure unevaluated counts =>
      by_cases excuses : failure.Excuses
      · refine iff_of_true ⟨_, rfl, fun other observed => .excused excuses counts⟩
          (unlost fun _ same => ?_)
        cases same
        exact excuses
      · constructor
        · rintro ⟨_, settled, keeps⟩ loses
          cases settled
          cases loses with
          | failed _ _ observed =>
            obtain ⟨outcome, observed⟩ := Option.isSome_iff_exists.mp observed
            exact excuses ((keeps_failure counts).mp (keeps outcome observed))
          | interrupted other | unpaid other _ _ | unreached other _ _ _ _ =>
            rw [flow] at other
            cases other
        · intro unlost
          refine ⟨_, rfl, fun outcome observed => ?_⟩
          exact absurd (.failed flow excuses (by
            rw [show lastOutcome capability (earlier ++ [⟨state, attempt⟩]) = _ from observed]
            rfl)) unlost
  | @rejected state attempt error some room flow =>
    rw [keepsThrough_single]
    refine iff_of_false (fun resolves => ?_) fun unlost => unlost (.interrupted flow)
    obtain ⟨result, settled, _⟩ := resolves
    cases settled
  | @retried state next attempt run some room flow goes ih =>
    have ends := attemptOnce_ends capability state attempt
    rw [flow] at ends
    cases ends with
    | retried outcome follows again allowed last =>
      have counts : next.counted.targetRequests =
          state.targetRequests + CallStepV1.requests capability ⟨state, attempt⟩ :=
        follows.targetRequests
      have fits : state.targetRequests + CallStepV1.requests capability ⟨state, attempt⟩ ≤
          capability.maxTargetRequestsPerCall :=
        CallStepV1.requests_le capability ⟨state, attempt⟩ room.le
      rw [CallRunV1.resolvesAfter_after counts]
      show _ ↔ KeepsThrough capability earlier (⟨state, attempt⟩ :: run.steps)
      rw [keepsThrough_cons]
      by_cases loses : LosesOutcome capability earlier ⟨state, attempt⟩
      · -- The retry cannot be paid, so that an older result or none at all takes the outcome's place.
        refine iff_of_false (fun resolves => ?_) fun kept => kept.1 loses
        cases loses with
        | unpaid _ spent observed =>
          obtain ⟨lost, observed⟩ := Option.isSome_iff_exists.mp observed
          have full : capability.maxTargetRequestsPerCall ≤ next.counted.targetRequests := by
            rw [counts, spent]
          have ended := goes.spent full
          rw [ended] at resolves
          refine CallRunV1.settled_loses observed (fun keeps => ?_) resolves
          have held : next.counted.lastResult = state.lastResult := last
          cases earliest : state.lastResult with
          | none =>
            rw [held, earliest] at keeps
            cases keeps with
            | excused excuses _ => rcases excuses with code | code <;> cases code
          | some result =>
            have before := observes.last result earliest
            rw [held, earliest] at keeps
            have attempts := keeps.attempts
            dsimp only [Option.getD_some] at attempts
            omega
        | interrupted other | failed other _ _ | unreached other _ _ _ _ =>
          rw [flow] at other
          cases other
      · have later : next.counted.Observes capability (earlier ++ [⟨state, attempt⟩]) := by
          refine CallStateV1.Observes.retried observes some follows last fun observed => ?_
          rw [follows.targetRequests]
          exact Nat.lt_of_le_of_ne fits fun spent => loses (.unpaid flow spent observed)
        rw [ih _ later]
        exact (and_iff_right loses).symm
  | @left state next attempt run some room flow goes ih =>
    have ends := attemptOnce_ends capability state attempt
    rw [flow] at ends
    cases ends with
    | @unrecognised _ evaluation evaluated unfound follows last =>
      have unobserved : lastOutcome capability (earlier ++ [⟨state, attempt⟩]) = none := by
        rw [lastOutcome_evaluated evaluated, unfound]
      have kept : ¬LosesOutcome capability earlier ⟨state, attempt⟩ :=
        kept_of_unobserved (fun error other => by rw [flow] at other; cases other) unobserved
      have later : next.counted.nextStrategy.Observes capability (earlier ++ [⟨state, attempt⟩]) := by
        refine CallStateV1.Observes.left observes follows last rfl fun observed => ?_
        rw [unobserved] at observed
        cases observed
      have counted : next.counted.nextStrategy.targetRequests =
          state.targetRequests + CallStepV1.requests capability ⟨state, attempt⟩ :=
        follows.targetRequests
      rw [CallRunV1.resolvesAfter_after counted]
      show _ ↔ KeepsThrough capability earlier (⟨state, attempt⟩ :: run.steps)
      rw [keepsThrough_cons, ih _ later]
      exact (and_iff_right kept).symm
    | @unreached _ failure unevaluated follows last code counts =>
      have counted : next.counted.nextStrategy.targetRequests =
          state.targetRequests + CallStepV1.requests capability ⟨state, attempt⟩ :=
        follows.targetRequests
      rw [CallRunV1.resolvesAfter_after counted]
      show _ ↔ KeepsThrough capability earlier (⟨state, attempt⟩ :: run.steps)
      rw [keepsThrough_cons]
      by_cases loses : LosesOutcome capability earlier ⟨state, attempt⟩
      · refine iff_of_false (fun resolves => ?_) fun kept => kept.1 loses
        cases loses with
        | unreached left held unexcused ending observed =>
          rw [flow] at left
          cases left
          rw [last] at held
          cases held
          obtain ⟨lost, observed⟩ := Option.isSome_iff_exists.mp observed
          have result : next.counted.nextStrategy.lastResult = Option.some (.failure failure) := last
          have ended : run = .settled (.failure failure) := by
            rcases ending with none | spent
            · have none : next.counted.nextStrategy.strategies = [] := by
                show next.strategies.tail = []
                rw [follows.strategies]
                exact none
              rw [goes.done none, result]
              rfl
            · have full : capability.maxTargetRequestsPerCall ≤
                  next.counted.nextStrategy.targetRequests := by
                rw [← spent]
                exact follows.targetRequests.ge
              rw [goes.spent full, result]
              rfl
          rw [ended] at resolves
          refine CallRunV1.settled_loses observed (fun keeps => ?_) resolves
          cases keeps with
          | excused excuses _ => exact unexcused excuses
        | interrupted other | failed other _ _ | unpaid other _ _ =>
          rw [flow] at other
          cases other
      · have later : next.counted.nextStrategy.Observes capability
            (earlier ++ [⟨state, attempt⟩]) := by
          refine CallStateV1.Observes.left observes follows last counts fun observed => ?_
          by_cases excuses : failure.Excuses
          · exact .inr ⟨failure, rfl, excuses⟩
          · have goesOn := fun ending => loses (.unreached flow last excuses ending observed)
            have fits : state.targetRequests + CallStepV1.requests capability ⟨state, attempt⟩ ≤
                capability.maxTargetRequestsPerCall :=
              CallStepV1.requests_le capability ⟨state, attempt⟩ room.le
            refine .inl ⟨fun none => goesOn (.inl none), ?_⟩
            rw [follows.targetRequests]
            exact Nat.lt_of_le_of_ne fits fun spent => goesOn (.inr spent)
        rw [ih _ later]
        exact (and_iff_right loses).symm

/-- A capability that may retry a call once after a transport failure. -/
def unreliableCapability : CalledCapabilityV1 :=
  { twoStrategyCapability with
    callRetryPolicy :=
      { twoStrategyCapability.callRetryPolicy with
        on := [.transportFailure], once := by decide, unretried := by decide }
    covers := by decide }

/-- Every attempt fails before it reaches the target, and the caller cancels the wait after it. -/
def cancelledAttempts (_ : Nat) : AttemptV1 :=
  { startedAt := 0, answer := .error (.other "socket hang up"), evaluation := .error (.other ""),
    random := none, weighedAt := 0, waitCompletes := false }

end Klura
