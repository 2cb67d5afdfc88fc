import Klura.Invariants.BoundaryLimits

/-! A boundary enforces the policy in force as long as it is the one it was installed with. -/

namespace Klura

/-- A transition that takes place passes on the policy that the handlers read. -/
def SamePolicy (boundary : BrowserBoundaryV1) : BrowserEventV1 → Prop
  | .transition capability options => boundary.transitionRefusal capability = none →
    capability.browserResources = some boundary.handlerState.policy ∧
      capability.originTrafficPolicies = boundary.handlerState.capability.originTrafficPolicies ∧
      options = boundary.handlerState.options
  | _ => True

/-- What two policies have in common when handlers cannot tell them apart. -/
structure SameInForce (current handlerState : BoundaryPolicyV1) : Prop where
  policy : current.policy = handlerState.policy
  originPolicies : current.capability.originTrafficPolicies =
    handlerState.capability.originTrafficPolicies
  options : current.options = handlerState.options

/-- What was admitted since the policy in force was given was admitted, queued and charged by it. -/
structure EnforcesPolicy (urls : UrlClassV1) (boundary : BrowserBoundaryV1) : Prop where
  /-- Just one rule of the policy matches the request, and it is the one that admitted it. -/
  matched : ∀ admission ∈ boundary.budgets.admissions,
    matchPausedRequest urls boundary.current.policy admission.1 admission.2.phase =
      some admission.2.rule ∧ admission.2.rule ∈ boundary.current.policy.egressRules
  /-- Its origin has a policy. -/
  origin : ∀ admission ∈ boundary.budgets.admissions,
    admission.2.originPolicy ∈ boundary.current.capability.originTrafficPolicies
  /-- It was queued with the signal and the workload of the options. -/
  queued : ∀ admission ∈ boundary.budgets.admissions,
    admission.2.signal = boundary.current.options.signal ∧
      admission.2.workloadId = boundary.current.options.workloadId
  /-- It counts as a request of the task and of its rule. -/
  requests : boundary.budgets.targetRequests = boundary.budgets.admissions.length ∧
    boundary.budgets.targetRequests ≤ min boundary.current.options.maxTargetRequests
      boundary.current.policy.maxRequestsPerBrowserTask
  rules : ∀ rule, boundary.budgets.admissions.countP (fun admission =>
    admission.2.rule == rule) ≤ rule.maxRequests
  /-- Its body is charged. -/
  bodies : bodyBytes boundary.budgets.admissions ≤
    boundary.current.policy.maxEncodedRequestBodyBytesPerBrowserTask
  /-- Its response is charged when it is read. -/
  responses : (boundary.budgets.bodies.map Prod.snd).sum ≤
    boundary.current.policy.maxEncodedResponseBytesPerBrowserTask
  single : ∀ body ∈ boundary.budgets.bodies, body.2 ≤ body.1.maxEncodedResponseBytes ∧
    body.2 ≤ boundary.current.policy.maxSingleResponseBytes

theorem mem_of_onlyOne {α : Type} {items : List α} {item : α} (only : onlyOne items = some item) :
    item ∈ items := by
  match items, only with
  | [_], same =>
    simp only [onlyOne, Option.some.injEq] at same
    simp [same]

variable {urls : UrlClassV1}

theorem matchPausedRequest_mem {policy : BrowserResourcePolicyV1} {paused : BrowserFetchPausedV1}
    {phase : BrowserEgressPhaseV1} {rule : BrowserEgressRuleV1}
    (matched : matchPausedRequest urls policy paused phase = some rule) :
    rule ∈ policy.egressRules := by
  unfold matchPausedRequest at matched
  simp only at matched
  split_ifs at matched
  all_goals
    first
    | unfold matchBrowserPreflightEgressRule at matched
      split_ifs at matched
    | unfold matchBrowserEgressRule at matched
  all_goals
    split at matched
    · exact List.mem_of_mem_filter (mem_of_onlyOne matched)
    · cases matched

theorem findOriginPolicy_mem {policies : List OriginTrafficPolicyV1} {value : Units}
    {policy : OriginTrafficPolicyV1} (found : findOriginPolicy urls policies value = some policy) :
    policy ∈ policies := by
  unfold findOriginPolicy at found
  split at found
  · exact List.mem_of_find?_eq_some found
  · cases found

theorem step_sameInForce {boundary after : BrowserBoundaryV1} {event : BrowserEventV1}
    (allowed : SamePolicy boundary event) (steps : boundary.step urls event = some after)
    (scopes : ScopesHold boundary.scopes)
    (same : SameInForce boundary.current boundary.handlerState) :
    SameInForce after.current after.handlerState := by
  by_cases one : OnePolicy boundary event
  · have kept := step_policies one steps scopes
    simp only [BrowserBoundaryV1.policies, Prod.mk.injEq] at kept
    rw [kept.1, kept.2]
    exact same
  · cases event with
    | transition capability options =>
      simp only [BrowserBoundaryV1.step, Option.some.injEq] at steps
      subst steps
      simp only [BrowserBoundaryV1.transition]
      split
      · next policy accepted declared =>
        -- The policy that comes into force is the one the boundary was installed with.
        obtain ⟨resources, origins, chosen⟩ := allowed accepted
        rw [declared, Option.some.injEq] at resources
        exact ⟨resources, origins, chosen⟩
      · exact same
    | _ => exact absurd trivial one

end Klura
