import Klura.Call.NodeHttp
import Klura.Invariants.ReportedRequests

/-! What an execution outside a browser reports of the requests that it dispatched. -/

namespace Klura

open StrictJson

section

variable (network : NodeNetworkV1)

/-- The response of a hop, or what sending its request throws. -/
def sendEnd (hop : NodeHopV1) : Except ThrownV1 ReceivedResponseV1 :=
  match hop.lookup with
  | .cancelled before => .error (.publicHttp {
      code := .cancelled
      message := if before then ascii "caller cancelled before target dispatch"
        else ascii "caller cancelled target dispatch" })
  | .failed message => .error (.other message)
  | .addresses addresses =>
    if network.unreachable addresses then
      .error (.publicHttp {
        code := .requestBlocked
        message := ascii "DNS resolution did not yield only public addresses" })
    else
      match hop.exchange with
      | .unsendable message => .error (.other message)
      | .failed failure => .error (.publicHttp (dispatchFailure failure.thrown))
      | .received response => .ok response

/-- Whether the request of a hop leaves. -/
def dispatches (hop : NodeHopV1) : Bool :=
  match hop.lookup, hop.exchange with
  | .addresses addresses, .failed _ | .addresses addresses, .received _ =>
    !network.unreachable addresses
  | _, _ => false

/-- A task with the request of a hop dispatched, when it is. -/
def NodeTaskV1.sent (hop : NodeHopV1) (task : NodeTaskV1) : NodeTaskV1 :=
  { task with dispatched := task.dispatched + (dispatches network hop).toNat }

variable {network}

variable {hop : NodeHopV1} {fails : ThrownV1 → NodeTaskV1 → Prop}

variable {task : NodeTaskV1} {returns : ReceivedResponseV1 → NodeTaskV1 → Prop}

theorem wp_sendPinnedHttpsRequest :
    (sendPinnedHttpsRequest network hop).wp returns fails task ↔
      match sendEnd network hop with
      | .ok received => returns received (task.sent network hop)
      | .error thrown => fails thrown (task.sent network hop) := by
  unfold sendPinnedHttpsRequest sendEnd NodeTaskV1.sent dispatches
  cases hop.lookup with
  | cancelled before => simp
  | failed message => simp
  | addresses addresses =>
    cases refused : network.unreachable addresses <;> cases hop.exchange <;>
      simp [refused, dispatch]

variable {thrown : ThrownV1}

theorem sendEnd_carried (failed : sendEnd network hop = .error thrown) :
    thrown.carried.getD 0 = (dispatches network hop).toNat := by
  unfold sendEnd at failed
  unfold dispatches
  cases found : hop.lookup with
  | cancelled before =>
    simp only [found, Except.error.injEq] at failed
    simp [← failed]
  | failed message =>
    simp only [found, Except.error.injEq] at failed
    simp [← failed, ThrownV1.carried]
  | addresses addresses =>
    simp only [found] at failed
    cases refused : network.unreachable addresses with
    | true =>
      simp only [refused, if_true, Except.error.injEq] at failed
      cases hop.exchange <;> simp [← failed, refused]
    | false =>
      simp only [refused, Bool.false_eq_true, if_false] at failed
      cases exchanged : hop.exchange with
      | unsendable message =>
        simp only [exchanged, Except.error.injEq] at failed
        simp [← failed, ThrownV1.carried]
      | failed failure =>
        simp only [exchanged, Except.error.injEq] at failed
        -- Whatever failed the exchange, its error is made to count the request.
        cases failure <;> simp [← failed, dispatchFailure, ExchangeFailureV1.thrown, refused]
      | received response => simp [exchanged] at failed

variable {received : ReceivedResponseV1}

theorem dispatches_of_ok (delivered : sendEnd network hop = .ok received) :
    dispatches network hop = true := by
  unfold sendEnd at delivered
  unfold dispatches
  cases found : hop.lookup with
  | cancelled before => simp [found] at delivered
  | failed message => simp [found] at delivered
  | addresses addresses =>
    simp only [found] at delivered
    cases refused : network.unreachable addresses with
    | true => simp [refused] at delivered
    | false => cases exchanged : hop.exchange <;> simp_all

theorem withTargetRequestCount_counts (thrown : ThrownV1) (completed : Nat) :
    (withTargetRequestCount thrown completed).targetRequests =
      completed + thrown.carried.getD 0 := by
  cases thrown with
  | publicHttp error =>
    simp only [withTargetRequestCount, ThrownV1.carried_publicHttp, Option.getD_some]
    split_ifs with first
    · omega
    · rfl
  | _ => rfl

theorem wp_releasePermit {returns : Unit → NodeTaskV1 → Prop} :
    (releasePermit hop).wp returns fails task ↔
      if task.released then returns () task
      else
        match hop.unreleased with
        | none => returns () { task with released := true }
        | some message => fails (.other message) { task with released := true } := by
  unfold releasePermit
  simp only [Program.wp_bind, Program.wp_get]
  cases task.released with
  | true => simp
  | false => cases hop.unreleased <;> simp

theorem wp_exchangeHop {completed dispatched : Nat} :
    (exchangeHop network hop completed).wp returns fails ⟨dispatched, false⟩ ↔
      match sendEnd network hop, hop.unreleased with
      | .ok received, none => returns received ⟨dispatched + 1, true⟩
      | .ok _, some message =>
        fails (.publicHttp (withTargetRequestCount (.other message) completed))
          ⟨dispatched + 1, true⟩
      | .error thrown, none => fails (.publicHttp (withTargetRequestCount thrown completed))
          ⟨dispatched + (dispatches network hop).toNat, true⟩
      | .error _, some message =>
        fails (.other message) ⟨dispatched + (dispatches network hop).toNat, true⟩ := by
  unfold exchangeHop
  simp only [Program.wp_tryCatch, Program.wp_bind, wp_sendPinnedHttpsRequest]
  cases ended : sendEnd network hop with
  | ok received =>
    have left := dispatches_of_ok ended
    cases back : hop.unreleased <;>
      simp [wp_releasePermit, NodeTaskV1.sent, left, back]
  | error thrown =>
    cases back : hop.unreleased <;> simp [wp_releasePermit, NodeTaskV1.sent, back]

/-- A hop that gets as far as asking for its permit. -/
structure Admissible (network : NodeNetworkV1) (maxTargetRequests : Nat) (hop : Nat × UrlV1) :
    Prop where
  running : (network.hop hop.1).aborted = false
  declared : (network.declared hop.2).isSome = true
  budgeted : hop.1 < maxTargetRequests

/-- A hop whose response redirects to the next. -/
structure HopStep (network : NodeNetworkV1) (maxTargetRequests : Nat) (method : Units)
    (hop next : Nat × UrlV1) : Prop where
  admissible : Admissible network maxTargetRequests hop
  permitted : (network.hop hop.1).unpermitted = none
  released : (network.hop hop.1).unreleased = none
  redirects : ∃ received policy, sendEnd network (network.hop hop.1) = .ok received ∧
    network.declared hop.2 = some policy ∧ isRedirectStatus received.status = true ∧
    redirectTarget network ⟨hop.2, method⟩ policy hop.1 (hop.1 + 1) received = .ok next.2
  counts : next.1 = hop.1 + 1

/-- When an execution that ends in a hop reports what it dispatched. After an earlier request it
may not end by its signal, by an origin that is not declared or, past its deadline, by a permit it
does not get; and a permit that cannot be given back may not end it after a response, nor, past its
deadline, after any request. -/
structure HopCounts (network : NodeNetworkV1) (maxTargetRequests : Nat) (timedOut : Bool)
    (hop : Nat × UrlV1) : Prop where
  running : (network.hop hop.1).aborted = true → hop.1 = 0
  declared : (network.hop hop.1).aborted = false → network.declared hop.2 = none → hop.1 = 0
  permitted : Admissible network maxTargetRequests hop →
    (network.hop hop.1).unpermitted.isSome = true → timedOut = true → hop.1 = 0
  answered : Admissible network maxTargetRequests hop → (network.hop hop.1).unpermitted = none →
    ∀ received, sendEnd network (network.hop hop.1) = .ok received →
      (network.hop hop.1).unreleased = none
  failed : Admissible network maxTargetRequests hop → (network.hop hop.1).unpermitted = none →
    ∀ thrown, sendEnd network (network.hop hop.1) = .error thrown →
      (network.hop hop.1).unreleased.isSome = true → timedOut = true →
        hop.1 = 0 ∧ dispatches network (network.hop hop.1) = false

/-- An error that the sequence ends with is reported with what was dispatched. -/
def ReportsError (timedOut : Bool) (thrown : ThrownV1) (last : NodeTaskV1) : Prop :=
  if timedOut then thrown.carried.getD 0 = last.dispatched
  else ∀ count, thrown.carried = some count → count = last.dispatched

@[simp] theorem reportsError_publicHttp (timedOut : Bool) (error : PublicHttpExecutionError)
    (last : NodeTaskV1) :
    ReportsError timedOut (.publicHttp error) last ↔ error.targetRequests = last.dispatched := by
  cases timedOut <;> simp [ReportsError]

@[simp] theorem reportsError_other (timedOut : Bool) (message : Units) (last : NodeTaskV1) :
    ReportsError timedOut (.other message) last ↔ (timedOut = true → last.dispatched = 0) := by
  cases timedOut <;> simp [ReportsError, ThrownV1.carried, eq_comm]

variable {maxTargetRequests : Nat} {method : Units} {property : Nat × UrlV1 → Prop}

theorem forall_hops_iff {hop : Nat × UrlV1} :
    (∀ last, Relation.ReflTransGen (HopStep network maxTargetRequests method) hop last →
      property last) ↔
      property hop ∧ ∀ next, HopStep network maxTargetRequests method hop next → ∀ last,
        Relation.ReflTransGen (HopStep network maxTargetRequests method) next last →
          property last := by
  constructor
  · intro every
    exact ⟨every hop .refl, fun next step last later => every last (.head step later)⟩
  · rintro ⟨here, later⟩ last path
    rcases Relation.ReflTransGen.cases_head path with rfl | ⟨next, step, rest⟩
    · exact here
    · exact later next step last rest

theorem forall_hops_of_end {hop : Nat × UrlV1}
    (ends : ∀ next, ¬HopStep network maxTargetRequests method hop next) :
    (∀ last, Relation.ReflTransGen (HopStep network maxTargetRequests method) hop last →
      property last) ↔ property hop := by
  rw [forall_hops_iff]
  exact ⟨fun both => both.1, fun here => ⟨here, fun next step => (ends next step).elim⟩⟩

variable {targetRequests : Nat}

theorem redirectTarget_refused {request : PreparedRequestV1} {policy : OriginTrafficPolicyV1}
    {redirectHops : Nat} {refused : PublicHttpExecutionError}
    (refuses : redirectTarget network request policy redirectHops targetRequests received = .error refused) :
    refused.targetRequests = targetRequests := by
  unfold redirectTarget at refuses
  simp only at refuses
  -- Each refusal is made with the count, and the last has it added.
  split at refuses
  · cases refuses
    rfl
  split at refuses
  · cases refuses
    rfl
  split at refuses
  · cases refuses
    rfl
  split at refuses
  · cases refuses
    rfl
  split at refuses
  · cases refuses
    rw [withTargetRequestCount_counts]
    rfl
  · cases refuses

theorem wp_respondNode {timedOut : Bool} {released : Bool} :
    (respondNode network received targetRequests).wp
      (fun response last => response.targetRequests = last.dispatched) (ReportsError timedOut)
      ⟨targetRequests, released⟩ := by
  unfold respondNode
  cases network.project received with
  | none => simp
  | some failure =>
    simp only [Program.wp_throw, reportsError_publicHttp, withTargetRequestCount_counts]
    cases failure <;> rfl

/-- A sequence that begins in a hop reports what it dispatched just when each of its hops counts. -/
theorem executeRedirectSequence_reports {timedOut : Bool} (hop : Nat × UrlV1) (released : Bool) :
    (executeRedirectSequence network maxTargetRequests ⟨hop.2, method⟩ hop.1 hop.1).wp
      (fun response last => response.targetRequests = last.dispatched) (ReportsError timedOut)
      ⟨hop.1, released⟩ ↔
      ∀ last, Relation.ReflTransGen (HopStep network maxTargetRequests method) hop last →
        HopCounts network maxTargetRequests timedOut last := by
  -- The induction follows the budget that is left, of which every hop takes one request.
  induction left : maxTargetRequests - hop.1 using Nat.strong_induction_on
    generalizing hop released with
  | _ left ih =>
  obtain ⟨count, url⟩ := hop
  rw [executeRedirectSequence]
  cases aborted : (network.hop count).aborted with
  | true =>
    rw [forall_hops_of_end fun next step => by simpa [aborted] using step.admissible.running]
    simp only [if_true, Program.wp_throw, reportsError_publicHttp]
    constructor
    · intro first
      exact {
        running := fun _ => first.symm
        declared := fun running => by simp [aborted] at running
        permitted := fun admissible => by simpa [aborted] using admissible.running
        answered := fun admissible => by simpa [aborted] using admissible.running
        failed := fun admissible => by simpa [aborted] using admissible.running }
    · intro counts
      exact (counts.running aborted).symm
  | false =>
  simp only [Bool.false_eq_true, if_false]
  cases declared : network.declared url with
  | none =>
    rw [forall_hops_of_end fun next step => by simpa [declared] using step.admissible.declared]
    simp only [Program.wp_throw, reportsError_publicHttp]
    constructor
    · intro first
      exact {
        running := fun running => by simp [aborted] at running
        declared := fun _ _ => first.symm
        permitted := fun admissible => by simpa [declared] using admissible.declared
        answered := fun admissible => by simpa [declared] using admissible.declared
        failed := fun admissible => by simpa [declared] using admissible.declared }
    · intro counts
      exact (counts.declared aborted declared).symm
  | some policy =>
  simp only
  split_ifs with exhausted
  · rw [forall_hops_of_end fun next step => by
      have budgeted := step.admissible.budgeted
      simp only at budgeted
      omega]
    simp only [Program.wp_throw, reportsError_publicHttp, true_iff]
    exact {
      running := fun running => by simp [aborted] at running
      declared := fun _ none => by simp [declared] at none
      permitted := fun admissible => absurd admissible.budgeted (by simpa using exhausted)
      answered := fun admissible => absurd admissible.budgeted (by simpa using exhausted)
      failed := fun admissible => absurd admissible.budgeted (by simpa using exhausted) }
  have admissible : Admissible network maxTargetRequests (count, url) :=
    ⟨aborted, by simp [declared], by simpa using exhausted⟩
  simp only [acquirePermit, Program.wp_bind]
  cases permitted : (network.hop count).unpermitted with
  | some message =>
    rw [forall_hops_of_end fun next step => by simpa [permitted] using step.permitted]
    simp only [Program.wp_throw, reportsError_other]
    constructor
    · intro first
      exact {
        running := fun running => by simp [aborted] at running
        declared := fun _ none => by simp [declared] at none
        permitted := fun _ _ => first
        answered := fun _ none => by simp [permitted] at none
        failed := fun _ none => by simp [permitted] at none }
    · intro counts
      exact counts.permitted admissible (by simp [permitted])
  | none =>
  simp only [Program.wp_modify, Program.wp_bind, wp_exchangeHop]
  -- From here on the hop can only miscount by the end of its exchange.
  have byEnd : HopCounts network maxTargetRequests timedOut (count, url) ↔
      (∀ received, sendEnd network (network.hop count) = .ok received →
        (network.hop count).unreleased = none) ∧
      ∀ thrown, sendEnd network (network.hop count) = .error thrown →
        (network.hop count).unreleased.isSome = true → timedOut = true →
          count = 0 ∧ dispatches network (network.hop count) = false := by
    constructor
    · intro counts
      exact ⟨counts.answered admissible permitted, counts.failed admissible permitted⟩
    · intro both
      exact {
        running := fun running => by simp [aborted] at running
        declared := fun _ none => by simp [declared] at none
        permitted := fun _ some => by simp [permitted] at some
        answered := fun _ _ => both.1
        failed := fun _ _ => both.2 }
  cases ended : sendEnd network (network.hop count) with
  | error thrown =>
    rw [forall_hops_of_end fun next step => by
      obtain ⟨received, policy, other, _⟩ := step.redirects
      simp [ended] at other, byEnd]
    cases back : (network.hop count).unreleased with
    | none =>
      simp only [reportsError_publicHttp, withTargetRequestCount_counts, sendEnd_carried ended,
        true_iff]
      exact ⟨fun _ other => by simp [ended] at other, fun _ _ some => by simp at some⟩
    | some message =>
      simp only [reportsError_other]
      constructor
      · intro unsent
        refine ⟨fun _ other => by simp [ended] at other, fun _ _ _ late => ?_⟩
        have both := unsent late
        cases sent : dispatches network (network.hop count) <;> simp_all
      · intro both late
        obtain ⟨first, unsent⟩ := both.2 thrown ended rfl late
        simp only [first] at unsent ⊢
        simp [unsent]
  | ok received =>
    cases back : (network.hop count).unreleased with
    | some message =>
      rw [forall_hops_of_end fun next step => by simpa [back] using step.released, byEnd]
      simp only [reportsError_publicHttp, withTargetRequestCount_counts]
      constructor
      · intro same
        simp [ThrownV1.carried] at same
      · intro both
        simpa [back] using both.1 received ended
    | none =>
      have here : HopCounts network maxTargetRequests timedOut (count, url) := by
        rw [byEnd]
        exact ⟨fun _ _ => back, fun _ other => by simp [ended] at other⟩
      simp only
      split_ifs with redirects
      · cases target : redirectTarget network ⟨url, method⟩ policy count (count + 1) received with
        | error refused =>
          rw [forall_hops_of_end fun next step => by
            obtain ⟨other, policy', same, found, _, leads⟩ := step.redirects
            cases ended.symm.trans same
            cases declared.symm.trans found
            cases target.symm.trans leads]
          simp only [Program.wp_throw, reportsError_publicHttp, redirectTarget_refused target,
            true_iff]
          exact here
        | ok next =>
          have step : HopStep network maxTargetRequests method (count, url) (count + 1, next) :=
            ⟨admissible, permitted, back, ⟨received, policy, ended, declared, redirects, target⟩, rfl⟩
          have budget := admissible.budgeted
          have later := ih (maxTargetRequests - (count + 1)) (by simp only at budget left; omega)
            (count + 1, next) true rfl
          rw [later]
          constructor
          · intro rest
            refine forall_hops_iff.mpr ⟨here, fun hop other => ?_⟩
            -- A hop redirects to one next hop only.
            have same : hop = (count + 1, next) := by
              obtain ⟨received', policy', delivered, found, _, leads⟩ := other.redirects
              cases ended.symm.trans delivered
              cases declared.symm.trans found
              have url' : next = hop.2 := by simpa using target.symm.trans leads
              exact Prod.ext other.counts url'.symm
            rw [same]
            exact rest
          · intro every
            exact (forall_hops_iff.mp every).2 _ step
      · rw [forall_hops_of_end fun next step => by
          obtain ⟨other, _, same, _, redirected, _⟩ := step.redirects
          cases ended.symm.trans same
          exact redirects redirected]
        exact ⟨fun _ => here, fun _ => wp_respondNode⟩

theorem refuseNodeHttp_carried {call : NodeCallV1} {count : Nat}
    (refuses : refuseNodeHttp call = .error thrown) (carries : thrown.carried = some count) :
    count = 0 := by
  unfold refuseNodeHttp at refuses
  simp only at refuses
  split at refuses <;> cases refuses <;> cases carries
  all_goals rfl

/-- An execution outside a browser reports what it dispatched just when each of its hops counts. -/
theorem executeNodeHttpStrategy_reports (network : NodeNetworkV1) (call : NodeCallV1) :
    (executeNodeHttpStrategy call network).wp
      (fun response last => response.targetRequests = last.dispatched)
      (fun thrown last => ∀ count, thrown.carried = some count → count = last.dispatched) {} ↔
      ∀ request, refuseNodeHttp call = .ok request → ∀ last,
        Relation.ReflTransGen
          (HopStep network (call.maxTargetRequests.safeInteger.getD 0).toNat request.method)
          (0, request.url) last →
        HopCounts network (call.maxTargetRequests.safeInteger.getD 0).toNat call.timedOut last := by
  unfold executeNodeHttpStrategy
  cases refuses : refuseNodeHttp call with
  | error thrown =>
    simp only [Program.wp_throw]
    constructor
    · intro _ _ other
      cases other
    · intro _ count carries
      exact refuseNodeHttp_carried refuses carries
  | ok request =>
    simp only [Program.wp_tryCatch, Except.ok.injEq, forall_eq']
    rw [← executeRedirectSequence_reports (0, request.url) false]
    -- The handler only replaces the error, and by one that is reported as `ReportsError` says.
    have handles : (fun thrown (last : NodeTaskV1) => ∀ count, (ThrownV1.publicHttp {
          code := .requestTimeout
          message := ascii "target request deadline expired"
          targetRequests := countedRequests thrown }).carried = some count →
            count = last.dispatched) = ReportsError true := by
      funext thrown last
      cases thrown <;> simp [ReportsError, ThrownV1.carried, countedRequests]
    cases call.timedOut with
    | false => rfl
    | true =>
      rw [← handles]
      rfl

end

end Klura
