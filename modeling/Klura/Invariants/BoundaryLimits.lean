import Klura.Invariants.BoundaryBudgets

/-! In every state of a boundary what was admitted and what was read is within every limit. -/

namespace Klura

/-- What was admitted, read and handed on is within the limits of the policy that handlers read. -/
structure BoundaryWithin (urls : UrlClassV1) (boundary : BrowserBoundaryV1) : Prop where
  scopes : ScopesHold boundary.scopes
  budgets : BudgetsHold boundary.handlerState boundary.scopes boundary.budgets
  admitted : ∀ admission ∈ boundary.budgets.admissions,
    JudgedHold urls boundary.handlerState boundary.scopes admission.1 admission.2
  entries : ∀ entry ∈ boundary.handlers.suspended,
    EntryHold urls boundary.handlerState boundary.scopes boundary.budgets.responseBytes entry
  handed : ∀ response ∈ boundary.handed, response.2 ≤ response.1.maxEncodedResponseBytes ∧
    response.2 ≤ boundary.handlerState.policy.maxSingleResponseBytes

namespace BoundaryWithin

variable {urls : UrlClassV1} {boundary after : BrowserBoundaryV1}

theorem adds (within : BoundaryWithin urls boundary) (adds : Adds urls boundary after) :
    BoundaryWithin urls after := by
  obtain ⟨added, suspended, known⟩ := adds.suspended
  exact {
    scopes := by
      rw [adds.scopes]
      exact within.scopes
    budgets := by
      rw [adds.handlerState, adds.scopes, adds.budgets]
      exact within.budgets
    admitted := by
      rw [adds.handlerState, adds.scopes, adds.budgets]
      exact within.admitted
    entries := by
      rw [adds.handlerState, adds.scopes, adds.budgets, suspended]
      intro entry member
      rcases List.mem_append.mp member with new | old
      · exact (known entry new).2
      · exact within.entries entry old
    handed := by
      rw [adds.handlerState, adds.handed]
      exact within.handed }

theorem without (within : BoundaryWithin urls boundary) {id : Nat}
    {entry : PausedHandlerV1 × HandlerStageV1}
    {others : List (PausedHandlerV1 × HandlerStageV1)}
    (taken : BrowserHandlersV1.takeHandler id boundary.handlers.suspended = some (entry, others)) :
    BoundaryWithin urls (boundary.without others) := by
  obtain ⟨_, permuted⟩ := takeHandler_perm taken
  exact { within with
    entries := fun other member =>
      within.entries other (permuted.mem_iff.mpr (List.mem_cons_of_mem _ member)) }

theorem moves (within : BoundaryWithin urls boundary) {scopes : BrowserScopesV1}
    (grow : ScopesGrow boundary.scopes scopes) (hold : ScopesHold scopes) :
    BoundaryWithin urls { boundary with scopes } where
  scopes := hold
  budgets := within.budgets.grow within.admitted grow
  admitted := fun admission member => (within.admitted admission member).kept grow.limitsKept
  entries := fun entry member =>
    (within.entries entry member).kept grow.limitsKept (.inl (le_refl _))
  handed := within.handed

theorem reset (within : BoundaryWithin urls boundary) {scopes : BrowserScopesV1}
    {current : BoundaryPolicyV1} (same : scopes.operations = boundary.scopes.operations)
    (hold : ScopesHold scopes) :
    BoundaryWithin urls { boundary with current, scopes, budgets := {} } where
  scopes := hold
  budgets := within.budgets.reset same
  admitted := by simp
  entries := fun entry member =>
    (within.entries entry member).kept (ScopesGrow.same same).limitsKept (.inl (Nat.zero_le _))
  handed := within.handed

end BoundaryWithin

theorem transition_within {urls : UrlClassV1} {boundary : BrowserBoundaryV1}
    (within : BoundaryWithin urls boundary) (capability : BrowserNetworkCapabilityV1)
    (options : BrowserBoundaryOptionsV1) :
    BoundaryWithin urls (boundary.transition capability options) := by
  simp only [BrowserBoundaryV1.transition]
  split
  · exact within.reset rfl within.scopes
  · exact within

theorem close_within {urls : UrlClassV1} {boundary : BrowserBoundaryV1}
    (within : BoundaryWithin urls boundary) : BoundaryWithin urls boundary.close := by
  have closed : ScopesHold boundary.scopes.closeAll :=
    within.scopes.fewer (le_refl _) nofun nofun
  have grow : ScopesGrow boundary.scopes boundary.scopes.closeAll := .same rfl
  have moved := within.moves grow closed
  exact moved.adds (Adds.none rfl rfl rfl rfl rfl rfl)

variable {rest : BrowserBoundaryV1} {handler : PausedHandlerV1}

/-- A request that is admitted was let through by every limit. -/
theorem admitBrowserRequest_within {urls : UrlClassV1} {judged : JudgedBrowserRequestV1}
    {permit : Nat} (within : BoundaryWithin urls rest)
    (judgement : JudgedHold urls rest.handlerState rest.scopes handler.paused judged) :
    BoundaryWithin urls (admitBrowserRequest urls handler judged permit rest) := by
  have returned : BoundaryWithin urls
      { rest with traffic := rest.traffic.releasePermit permit .neutral } :=
    within.adds (Adds.none rfl rfl rfl rfl rfl rfl)
  simp only [admitBrowserRequest]
  split_ifs
  · exact returned.adds (deny_adds urls handler _)
  · cases valid : validatePostAcquireState judged rest with
    | some error => exact returned.adds (fail_adds urls handler error _)
    | none =>
      have kept := limitsKept_charge rest.scopes judged
      exact {
        scopes := by
          intro operation active
          refine (within.scopes operation ?_).trans_le kept.length
          cases own : judged.operation <;> simpa [BrowserScopesV1.charge, own] using active
        budgets := within.budgets.charge judgement valid
        admitted := by
          intro admission member
          rcases List.mem_cons.mp member with rfl | old
          · exact judgement.kept kept
          · exact (within.admitted admission old).kept kept
        entries := by
          intro entry member
          rcases List.mem_cons.mp member with rfl | old
          · exact trivial
          · exact (within.entries entry old).kept kept (.inl (le_refl _))
        handed := within.handed }

theorem BudgetsHold.chargeBody {inForce : BoundaryPolicyV1} {scopes : BrowserScopesV1}
    {budgets : BrowserBudgetsV1} {rule : BrowserEgressRuleV1} {bytes : Bytes}
    (hold : BudgetsHold inForce scopes budgets)
    (small : bytes.length ≤ rule.maxEncodedResponseBytes ∧
      bytes.length ≤ inForce.policy.maxSingleResponseBytes)
    (left : budgets.responseBytes + bytes.length ≤
      inForce.policy.maxEncodedResponseBytesPerBrowserTask) :
    BudgetsHold inForce scopes (budgets.chargeBody rule (.body bytes)) :=
  { hold with
    used := hold.used
    responses := by
      have responses := hold.responses
      simp only [BrowserBudgetsV1.chargeBody, List.map_cons, List.sum_cons]
      omega
    responseLimit := left
    single := by
      intro body member
      rcases List.mem_cons.mp member with rfl | old
      · exact small
      · exact hold.single body old }

/-- A body that was read within its limit is charged within the limits. -/
theorem endBody_within {urls : UrlClassV1} {admission : AdmittedBrowserRequestV1}
    {limit remaining : Int} {outcome : BodyOutcomeV1} {replies : List StreamReplyV1}
    (within : BoundaryWithin urls rest)
    (bounded : limit = responseLimit rest.handlerState.policy admission.rule remaining ∧ remaining ≤ rest.handlerState.policy.maxEncodedResponseBytesPerBrowserTask - (rest.budgets.responseBytes : Int))
    (read : readPausedResponseBody limit replies = some outcome)
    (alone : ∀ entry ∈ rest.handlers.suspended, entry.2.isReading = false) :
    BoundaryWithin urls (endBody urls handler admission limit remaining outcome rest) := by
  have kept := LimitsKept.refl rest.scopes
  cases outcome with
  | body bytes =>
    have fits := readPausedResponseBody_body read
    obtain ⟨same, left⟩ := bounded
    simp only [responseLimit] at same
    have small : bytes.length ≤ admission.rule.maxEncodedResponseBytes ∧
        bytes.length ≤ rest.handlerState.policy.maxSingleResponseBytes := by omega
    exact {
      scopes := within.scopes
      budgets := within.budgets.chargeBody small (by omega)
      admitted := within.admitted
      entries := by
        intro entry member
        rcases List.mem_cons.mp member with rfl | old
        · exact small
        · exact (within.entries entry old).kept kept (.inr (alone entry old))
      handed := within.handed }
  | failed error =>
    refine within.adds ⟨rfl, rfl, rfl, rfl, rfl,
      [(handler, .bodyRead admission
        (describeBody urls rest.handlerState.policy handler.paused admission limit remaining
          (.failed error)))], rfl, ?_⟩
    simp only [List.mem_singleton, forall_eq, describeBody]
    split_ifs <;> exact ⟨rfl, trivial⟩
  | dropped =>
    exact within.adds ⟨rfl, rfl, rfl, rfl, rfl, [(handler, .bodyRead admission .dropped)], rfl,
      by simp [waitingBytes, EntryHold]⟩

/-- What a handler does keeps the limits. -/
theorem HandlerRun.within {urls : UrlClassV1} {handler : PausedHandlerV1}
    {rest after : BrowserBoundaryV1} {event : BrowserEventV1} {stage : HandlerStageV1}
    (runs : HandlerRun urls handler rest event stage after) (within : BoundaryWithin urls rest)
    (known : EntryHold urls rest.handlerState rest.scopes rest.budgets.responseBytes
      (handler, stage))
    (alone : stage.isReading = true →
      ∀ entry ∈ rest.handlers.suspended, entry.2.isReading = false) :
    BoundaryWithin urls after := by
  cases runs with
  | acquired id judged =>
    refine within.adds ⟨rfl, rfl, rfl, rfl, rfl, [(handler, .granted judged _)], rfl, ?_⟩
    simp only [List.mem_singleton, forall_eq]
    exact ⟨rfl, known⟩
  | acquireFailed id cancelled message judged => exact within.adds (fail_adds urls handler _ rest)
  | admitted id judged permit => exact admitBrowserRequest_within within known
  | answered id admission outcome =>
    cases outcome with
    | body bytes =>
      exact {
        scopes := within.scopes
        budgets := within.budgets
        admitted := within.admitted
        entries := by
          intro entry member
          rcases List.mem_cons.mp member with rfl | old
          · exact trivial
          · exact within.entries entry old
        handed := by
          intro response member
          rcases List.mem_cons.mp member with rfl | old
          · exact known
          · exact within.handed response old }
    | failed error => exact within.adds (fail_adds urls handler error rest)
    | dropped =>
      refine within.adds (Adds.none rfl rfl rfl rfl rfl ?_)
      simp only [answerBody, releaseDropped, BrowserHandlersV1.finish, BrowserHandlersV1.drop]
      split_ifs <;> rfl
  | opened id admission turn =>
    refine within.adds ⟨rfl, rfl, rfl, rfl, rfl, [(handler, .reading admission _ _)], rfl, ?_⟩
    simp only [List.mem_singleton, forall_eq]
    exact ⟨rfl, rfl, le_refl _⟩
  | replied id replies admission limit remaining outcome read =>
    exact endBody_within within known read (alone rfl)
  | finished id _ told other =>
    refine within.adds (Adds.none rfl rfl rfl rfl rfl ?_)
    simp only [BrowserBoundaryV1.finished, BrowserHandlersV1.finish]
    split_ifs <;> rfl
  | fulfilled id admission =>
    refine within.adds (Adds.none rfl rfl rfl rfl rfl ?_)
    simp only [settleFulfilled, BrowserHandlersV1.finish]
    split_ifs <;> rfl
  | undone id =>
    refine within.adds (Adds.none rfl rfl rfl rfl rfl ?_)
    simp only [BrowserHandlersV1.finish, BrowserHandlersV1.drop]
    split_ifs <;> rfl
  | dropped id _ permit own told =>
    refine within.adds (Adds.none rfl rfl rfl rfl rfl ?_)
    simp only [releaseDropped, BrowserHandlersV1.finish, BrowserHandlersV1.drop]
    split_ifs <;> rfl

variable {event : BrowserEventV1}

theorem step_within {urls : UrlClassV1} {boundary after : BrowserBoundaryV1}
    (steps : boundary.step urls event = some after) (handlers : HandlersHold boundary.handlers)
    (within : BoundaryWithin urls boundary) :
    BoundaryWithin urls after := by
  cases browserStep_cases steps with
  | paused paused opened =>
    exact within.adds (handleFetchPaused_adds urls paused boundary within.scopes)
  | handler actor taken runs =>
    obtain ⟨member, _⟩ := takeHandler_mem taken
    refine runs.within (within.without taken) (within.entries _ member) fun reading => ?_
    -- Only the first of the queue reads, and that is the handler that was taken.
    exact (handlers.take taken).alone (handlers.reads _ member reading)
  | scopes actor moves =>
    obtain ⟨grow, hold⟩ := moves.grow within.scopes
    exact within.moves grow hold
  | waits maximumInFlight quietMs =>
    simp only [BrowserBoundaryV1.waitForQuiet]
    split_ifs
    · exact within
    · exact within.adds (Adds.none rfl rfl rfl rfl rfl rfl)
  | transition capability options => exact transition_within within capability options
  | close => exact close_within within
  | malformed => exact within.adds (Adds.none rfl rfl rfl rfl rfl rfl)
  | loadingEnded networkId => exact within.adds (Adds.none rfl rfl rfl rfl rfl rfl)
  | unwaits actor id => exact within.adds (Adds.none rfl rfl rfl rfl rfl rfl)

theorem installed_within {urls : UrlClassV1} {boundary : BrowserBoundaryV1}
    (starts : (browserMachine urls).starts boundary) : BoundaryWithin urls boundary := by
  obtain ⟨capability, options, mainFrameId, installed⟩ := starts
  simp only [installBrowserNetworkBoundary] at installed
  split at installed
  · cases installed
  · cases installed
    exact {
      scopes := by simp [ScopesHold]
      budgets := {
        counted := rfl
        task := Nat.zero_le _
        used := by simp [BrowserBudgetsV1.used, OrderedMap.get?]
        rules := by simp
        bodies := rfl
        bodyLimit := Nat.zero_le _
        scopeBytes := by simp
        responses := rfl
        responseLimit := Nat.zero_le _
        single := by simp }
      admitted := by simp
      entries := by simp
      handed := by simp }

theorem reached_within {urls : UrlClassV1} {allowed : BrowserBoundaryV1 → BrowserEventV1 → Prop}
    {boundary : BrowserBoundaryV1} (reached : (browserMachine urls).Reaches allowed boundary) :
    BoundaryWithin urls boundary := by
  -- The limit of a body is kept by its reader alone, so the handlers are followed along.
  have both := @Machine.Reaches.invariant _ _ (browserMachine urls) allowed
    (fun boundary => HandlersHold boundary.handlers ∧ BoundaryWithin urls boundary)
    (fun _ starts => ⟨installed_hold starts, installed_within starts⟩)
    (fun _ _ _ _ steps hold => ⟨step_hold steps hold.1, step_within steps hold.1 hold.2⟩) _ reached
  exact both.2

/-! Under one policy nothing is handed to the page that was not charged. -/

/-- Every step but a transition. -/
def OnePolicy (_ : BrowserBoundaryV1) : BrowserEventV1 → Prop
  | .transition _ _ => False
  | _ => True

/-- What was handed to the page and what waits to be was charged. -/
def HandedCharged (boundary : BrowserBoundaryV1) : Prop :=
  (boundary.handed.map Prod.snd).sum +
    (boundary.handlers.suspended.map waitingBytes).sum ≤ boundary.budgets.responseBytes

theorem HandedCharged.adds {urls : UrlClassV1} {before after : BrowserBoundaryV1}
    (charged : HandedCharged before) (adds : Adds urls before after) : HandedCharged after := by
  obtain ⟨added, suspended, known⟩ := adds.suspended
  have none : (added.map waitingBytes).sum = 0 := by
    simp only [List.sum_eq_zero_iff, List.mem_map, forall_exists_index, and_imp]
    rintro _ entry member rfl
    exact (known entry member).1
  unfold HandedCharged at charged ⊢
  rw [adds.handed, adds.budgets, suspended, List.map_append, List.sum_append, none]
  omega

/-- The policy that was last given and the one that the handlers read. -/
def BrowserBoundaryV1.policies (boundary : BrowserBoundaryV1) : BoundaryPolicyV1 × BoundaryPolicyV1 :=
  (boundary.current, boundary.handlerState)

theorem Adds.policies {urls : UrlClassV1} {before after : BrowserBoundaryV1}
    (adds : Adds urls before after) : after.policies = before.policies := by
  rw [BrowserBoundaryV1.policies, adds.current, adds.handlerState, BrowserBoundaryV1.policies]

theorem HandlerRun.policies {urls : UrlClassV1} {after : BrowserBoundaryV1} {stage : HandlerStageV1}
    (runs : HandlerRun urls handler rest event stage after) : after.policies = rest.policies := by
  cases runs with
  | admitted id judged permit =>
    simp only [admitBrowserRequest]
    split_ifs
    · rfl
    · split <;> rfl
  | answered id admission outcome => cases outcome <;> rfl
  | _ => rfl

theorem step_policies {urls : UrlClassV1} {boundary after : BrowserBoundaryV1}
    (one : OnePolicy boundary event) (steps : boundary.step urls event = some after)
    (scopes : ScopesHold boundary.scopes) :
    after.policies = boundary.policies := by
  cases browserStep_cases steps with
  | paused paused opened => exact (handleFetchPaused_adds urls paused boundary scopes).policies
  | handler actor taken runs => exact runs.policies
  | waits maximumInFlight quietMs =>
    simp only [BrowserBoundaryV1.waitForQuiet]
    split_ifs <;> rfl
  | transition capability options => exact one.elim
  | _ => rfl

/-- What a handler hands to the page was charged when it was read. -/
theorem HandlerRun.charged {urls : UrlClassV1} {handler : PausedHandlerV1}
    {rest after : BrowserBoundaryV1} {event : BrowserEventV1} {stage : HandlerStageV1}
    (runs : HandlerRun urls handler rest event stage after)
    (charged : (rest.handed.map Prod.snd).sum + (waitingBytes (handler, stage) +
      (rest.handlers.suspended.map waitingBytes).sum) ≤ rest.budgets.responseBytes) :
    HandedCharged after := by
  have before : HandedCharged rest := by
    unfold HandedCharged
    omega
  cases runs with
  | acquired id judged => simpa [HandedCharged, BrowserBoundaryV1.acquired,
      BrowserHandlersV1.park, waitingBytes] using before
  | acquireFailed id cancelled message judged => exact before.adds (fail_adds urls handler _ rest)
  | admitted id judged permit =>
    have returned : HandedCharged { rest with
        traffic := rest.traffic.releasePermit permit .neutral } := before
    simp only [admitBrowserRequest]
    split_ifs
    · exact returned.adds (deny_adds urls handler _)
    · split
      · exact returned.adds (fail_adds urls handler _ _)
      · simpa [HandedCharged, BrowserHandlersV1.send, BrowserHandlersV1.park, waitingBytes,
          BrowserBudgetsV1.charge] using before
  | answered id admission outcome =>
    cases outcome with
    | body bytes =>
      -- The bytes that waited are the ones that are handed to the page.
      simp only [waitingBytes] at charged
      simp only [HandedCharged, answerBody, BrowserHandlersV1.send, BrowserHandlersV1.park,
        List.map_cons, List.sum_cons, waitingBytes]
      omega
    | failed error => exact before.adds (fail_adds urls handler error rest)
    | dropped =>
      simp only [answerBody, releaseDropped, BrowserHandlersV1.finish, BrowserHandlersV1.drop]
      split_ifs <;> exact before
  | opened id admission turn =>
    simpa [HandedCharged, beginBody, BrowserHandlersV1.park, waitingBytes] using before
  | replied id replies admission limit remaining outcome read =>
    cases outcome with
    | body bytes =>
      unfold HandedCharged at before
      simp only [HandedCharged, endBody, describeBody, BrowserHandlersV1.park, List.map_cons,
        List.sum_cons, waitingBytes, BrowserBudgetsV1.chargeBody]
      omega
    | failed error =>
      unfold HandedCharged at before
      simp only [HandedCharged, endBody, describeBody, BrowserHandlersV1.park, List.map_cons,
        List.sum_cons, BrowserBudgetsV1.chargeBody]
      split_ifs <;> simpa [waitingBytes] using before
    | dropped =>
      simpa [HandedCharged, endBody, describeBody, BrowserHandlersV1.park, waitingBytes,
        BrowserBudgetsV1.chargeBody] using before
  | finished id _ told other =>
    simp only [BrowserBoundaryV1.finished, BrowserHandlersV1.finish]
    split_ifs <;> exact before
  | fulfilled id admission =>
    simp only [settleFulfilled, BrowserHandlersV1.finish]
    split_ifs <;> exact before
  | undone id =>
    simp only [BrowserHandlersV1.finish, BrowserHandlersV1.drop]
    split_ifs <;> exact before
  | dropped id _ permit own told =>
    simp only [releaseDropped, BrowserHandlersV1.finish, BrowserHandlersV1.drop]
    split_ifs <;> exact before

theorem step_charged {urls : UrlClassV1} {boundary after : BrowserBoundaryV1}
    (one : OnePolicy boundary event) (steps : boundary.step urls event = some after)
    (scopes : ScopesHold boundary.scopes) (charged : HandedCharged boundary) :
    HandedCharged after := by
  cases browserStep_cases steps with
  | paused paused opened =>
    exact charged.adds (handleFetchPaused_adds urls paused boundary scopes)
  | handler actor taken runs =>
    refine runs.charged ?_
    obtain ⟨_, permuted⟩ := takeHandler_perm taken
    have sums := (permuted.map waitingBytes).sum_eq
    simp only [List.map_cons, List.sum_cons] at sums
    unfold HandedCharged at charged
    rw [sums] at charged
    exact charged
  | waits maximumInFlight quietMs =>
    simp only [BrowserBoundaryV1.waitForQuiet]
    split_ifs <;> exact charged
  | transition capability options => exact one.elim
  | _ => exact charged

/-- What holds of a boundary under one policy. -/
structure BrowserBudgetsWithin (boundary : BrowserBoundaryV1) : Prop where
  /-- The admitted requests, by both limits of the task. -/
  requests : boundary.budgets.targetRequests = boundary.budgets.admissions.length ∧
    boundary.budgets.targetRequests ≤ min boundary.current.options.maxTargetRequests
      boundary.current.policy.maxRequestsPerBrowserTask
  /-- The admitted requests of each rule. -/
  rules : ∀ rule, boundary.budgets.admissions.countP (fun admission =>
    admission.2.rule == rule) ≤ rule.maxRequests
  /-- The bodies of the admitted requests, of the task and of each page script. -/
  bodies : bodyBytes boundary.budgets.admissions ≤
    boundary.current.policy.maxEncodedRequestBodyBytesPerBrowserTask
  scopeBodies : ∀ operation scope limits, boundary.scopes.operations[operation]? = some scope →
    scope.requestBodyPolicy = some limits →
      bodyBytes (ofScope operation boundary.budgets.admissions) ≤
        limits.maxEncodedRequestBodyBytesPerBrowserTask
  /-- The responses handed to the page, together and each of them. -/
  responses : (boundary.handed.map Prod.snd).sum ≤
    boundary.current.policy.maxEncodedResponseBytesPerBrowserTask
  single : ∀ response ∈ boundary.handed, response.2 ≤ response.1.maxEncodedResponseBytes ∧
    response.2 ≤ boundary.current.policy.maxSingleResponseBytes
  /-- What was paused is answered once when its handler has ended, unless it was dropped. -/
  answered : ∀ id < boundary.handlers.nextHandler, boundary.handlers.told.count id ≤ 1 ∧
    (id ∉ boundary.handlers.ids →
      boundary.handlers.told.count id = 1 ∨ id ∈ boundary.handlers.dropped)

end Klura
