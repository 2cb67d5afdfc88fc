import Klura.Invariants.BoundaryAdmissions
import Klura.Library.Check

/-! The budgets of a policy hold whatever waits for admission or for its body at once. -/

namespace Klura

open StrictJson

/-! What is counted for a body that is not above the bound is its size. -/

/-- The bytes that an entry of a body stands for. -/
def entryBytes (entry : Option Units) : Nat := ((entry.bind canonicalBase64).getD []).length

/-- The bytes of a body that the browser reports. -/
def BrowserFetchRequestBodyV1.bytes (body : BrowserFetchRequestBodyV1) : Nat :=
  match body.postDataEntries, body.postData with
  | some entries, _ => (entries.map entryBytes).sum
  | none, some text => utf8Length text
  | none, none => 0

variable {count : Nat}

/-- A total that is not above the bound counts every entry. -/
theorem measureEntries_exact {maximum : Nat} {read : Option Bytes} (entries : List (Option Units))
    (total : Nat) (chunks : Bytes)
    (measured : measureEntries maximum entries total chunks = some (count, read))
    (within : count ≤ maximum) : count = total + (entries.map entryBytes).sum := by
  -- The induction follows the entries, whose total grows by each one's bytes.
  induction entries generalizing total chunks with
  | nil =>
    simp only [measureEntries, Option.some.injEq, Prod.mk.injEq] at measured
    simp [← measured.1]
  | cons entry rest ih =>
    cases entry with
    | none => simp [measureEntries] at measured
    | some text =>
      simp only [measureEntries] at measured
      cases size : boundedBase64ByteLength text (maximum - total) with
      | none => simp [size] at measured
      | some pair =>
        obtain ⟨bytes, chunk⟩ := pair
        simp only [size] at measured
        split_ifs at measured with above
        · -- The answer is above the bound.
          simp only [Option.some.injEq, Prod.mk.injEq] at measured
          omega
        · have later := ih _ _ measured
          have exact : bytes = entryBytes (some text) := by
            simp only [boundedBase64ByteLength] at size
            split_ifs at size
            · simp only [Option.some.injEq, Prod.mk.injEq] at size
              omega
            · simp only [Option.map_eq_some_iff, Prod.mk.injEq] at size
              obtain ⟨decoded, found, length, _⟩ := size
              simp [entryBytes, found, length]
          simp only [List.map_cons, List.sum_cons]
          omega

variable {body : BrowserFetchRequestBodyV1}

/-- A count that is not above the bound is the size of the body. -/
theorem measureParsedBrowserRequestBodyBytes_exact {maximum : Nat}
    (measured : measureParsedBrowserRequestBodyBytes body maximum = some count)
    (within : count ≤ maximum) : count = body.bytes := by
  unfold measureParsedBrowserRequestBodyBytes at measured
  unfold BrowserFetchRequestBodyV1.bytes
  cases reported : body.postDataEntries with
  | some entries =>
    simp only [reported] at measured ⊢
    cases sum : measureEntries maximum entries 0 [] with
    | none => simp [sum] at measured
    | some pair =>
      obtain ⟨total, read⟩ := pair
      -- Whether the chunks are compared with the text or not, the total is the answer.
      have same : total = count := by
        cases read with
        | none => simpa [sum] using measured
        | some chunks =>
          simp only [sum] at measured
          split_ifs at measured
          simpa using measured
      subst same
      simpa using measureEntries_exact entries 0 [] sum within
  | none =>
    cases text : body.postData with
    | some text' =>
      simp only [reported, text] at measured ⊢
      split_ifs at measured with long wide
      · simp only [Option.some.injEq] at measured
        omega
      · simp only [Option.some.injEq] at measured
        omega
      · simp only [Option.some.injEq] at measured
        exact measured.symm
    | none =>
      simp only [reported, text] at measured ⊢
      split_ifs at measured
      simp only [Option.some.injEq] at measured
      exact measured.symm

variable {rule : BrowserEgressRuleV1}

theorem validateBrowserRequestBodyForRule_exact {policy : BrowserRequestBodyPolicyV1}
    (valid : validateBrowserRequestBodyForRule body policy rule = .ok count)
    (within : count ≤ policy.maxEncodedRequestBodyBytesPerBrowserTask) : count = body.bytes := by
  unfold validateBrowserRequestBodyForRule at valid
  split at valid
  · cases valid
  · next ruleMaximum found =>
    simp only at valid
    split at valid
    · cases valid
    · next bytes measured =>
      split_ifs at valid with above
      simp only [Except.ok.injEq] at valid
      subst valid
      -- The bound is the least of the three limits, none of which is passed.
      exact measureParsedBrowserRequestBodyBytes_exact measured (by omega)

/-- What is counted for the task and for its operation, when both limits hold, is the size of the
body. -/
theorem validateBrowserRequestBodiesForRule_exact {policy : BrowserResourcePolicyV1}
    {limits : Option BrowserRequestBodyPolicyV1} {preflight : Bool}
    {bodies : BrowserRequestBodyAdmissionsV1}
    (valid : validateBrowserRequestBodiesForRule body policy limits rule preflight = .ok bodies)
    (within : bodies.task ≤ policy.maxEncodedRequestBodyBytesPerBrowserTask) :
    bodies.task = body.bytes ∧ ∀ own, limits = some own → ∃ count,
      bodies.operation = some count ∧
        (count ≤ own.maxEncodedRequestBodyBytesPerBrowserTask → count = body.bytes) := by
  unfold validateBrowserRequestBodiesForRule at valid
  cases limits with
  | none =>
    simp only [bind_ok, Except.ok.injEq] at valid
    obtain ⟨task, taskValid, operation, _, valid⟩ := valid
    split_ifs at valid
    simp only [Except.ok.injEq] at valid
    subst valid
    exact ⟨validateBrowserRequestBodyForRule_exact taskValid within, nofun⟩
  | some own =>
    simp only [bind_ok, map_ok] at valid
    obtain ⟨task, taskValid, operation, ⟨count, countValid, counted⟩, valid⟩ := valid
    split_ifs at valid
    simp only [Except.ok.injEq] at valid
    subst valid
    refine ⟨validateBrowserRequestBodyForRule_exact taskValid within, ?_⟩
    intro other same
    simp only [Option.some.injEq] at same
    subst same
    exact ⟨count, counted.symm, validateBrowserRequestBodyForRule_exact countValid⟩

/-! What a request that waits for admission was judged by. -/

/-- The limits of a scope's request bodies, when it has any. -/
def BrowserScopesV1.limits (scopes : BrowserScopesV1) (operation : Nat) :
    Option BrowserRequestBodyPolicyV1 :=
  scopes.operations[operation]?.bind (·.requestBodyPolicy)

/-- A judged request was matched, given its origin policy, measured and queued by one policy. -/
structure JudgedHold (urls : UrlClassV1) (inForce : BoundaryPolicyV1) (scopes : BrowserScopesV1)
    (paused : BrowserFetchPausedV1) (judged : JudgedBrowserRequestV1) : Prop where
  rule : matchPausedRequest urls inForce.policy paused judged.phase = some judged.rule
  originPolicy : findOriginPolicy urls inForce.capability.originTrafficPolicies paused.url =
    some judged.originPolicy
  signal : judged.signal = inForce.options.signal
  workloadId : judged.workloadId = inForce.options.workloadId
  bodies : validateBrowserRequestBodiesForRule paused.requestBody inForce.policy
    (judged.operation.bind scopes.limits) judged.rule judged.isPreflight = .ok judged.bodies
  scope : ∀ operation, judged.operation = some operation → operation < scopes.operations.length

/-- The scopes that are open have been opened. -/
def ScopesHold (scopes : BrowserScopesV1) : Prop :=
  ∀ operation, scopes.activeAction = some operation ∨ scopes.activePageScript = some operation →
    operation < scopes.operations.length

variable {scopes : BrowserScopesV1}

theorem ScopesHold.scopeOf (hold : ScopesHold scopes) {ambient : Bool} {operation : Nat}
    (belongs : scopes.scopeOf ambient = some operation) :
    operation < scopes.operations.length := by
  simp only [BrowserScopesV1.scopeOf] at belongs
  split_ifs at belongs
  cases script : scopes.activePageScript with
  | some index =>
    simp only [script, Option.some_or, Option.some.injEq] at belongs
    exact hold operation (.inr (by rw [script, belongs]))
  | none =>
    simp only [script, Option.none_or] at belongs
    exact hold operation (.inl belongs)

/-- The scopes there were are still there, with the limits they had. -/
structure LimitsKept (before after : BrowserScopesV1) : Prop where
  length : before.operations.length ≤ after.operations.length
  limits : ∀ operation < before.operations.length, after.limits operation = before.limits operation

theorem LimitsKept.refl (scopes : BrowserScopesV1) : LimitsKept scopes scopes :=
  ⟨le_refl _, fun _ _ => rfl⟩

theorem JudgedHold.kept {urls : UrlClassV1} {inForce : BoundaryPolicyV1}
    {before after : BrowserScopesV1} {paused : BrowserFetchPausedV1}
    {judged : JudgedBrowserRequestV1} (hold : JudgedHold urls inForce before paused judged)
    (kept : LimitsKept before after) : JudgedHold urls inForce after paused judged := by
  have limits : judged.operation.bind after.limits = judged.operation.bind before.limits := by
    cases operation : judged.operation with
    | none => rfl
    | some index => exact kept.limits index (hold.scope index operation)
  exact { hold with
    bodies := by
      rw [limits]
      exact hold.bodies
    scope := fun index same => (hold.scope index same).trans_le kept.length }

variable {urls : UrlClassV1} {boundary : BrowserBoundaryV1} {judged : JudgedBrowserRequestV1}

variable {paused : BrowserFetchPausedV1}

theorem decideBrowserRequest_await (scopes : ScopesHold boundary.scopes)
    (decided : decideBrowserRequest urls paused boundary = .await judged) :
    JudgedHold urls boundary.handlerState boundary.scopes paused judged := by
  simp only [decideBrowserRequest] at decided
  split_ifs at decided
  simp only [decideInScope] at decided
  split at decided
  · next rule originPolicy matched found =>
    simp only [decideAdmissible] at decided
    split_ifs at decided
    split at decided
    · cases decided
    · next bodies valid =>
      cases decided
      exact {
        rule := matched
        originPolicy := found
        signal := rfl
        workloadId := rfl
        bodies := by
          rw [← valid, BrowserScopesV1.operation?, Option.bind_assoc]
          rfl
        scope := fun operation => scopes.scopeOf }
  · simp only [refuseUndeclared] at decided
    split_ifs at decided

/-! What is charged to the budgets. -/

/-- The bytes of the bodies of admitted requests. -/
def bodyBytes (admissions : List (BrowserFetchPausedV1 × JudgedBrowserRequestV1)) : Nat :=
  (admissions.map fun admission => admission.1.requestBody.bytes).sum

/-- The admissions of the requests of one scope. -/
def ofScope (operation : Nat) (admissions : List (BrowserFetchPausedV1 × JudgedBrowserRequestV1)) :
    List (BrowserFetchPausedV1 × JudgedBrowserRequestV1) :=
  admissions.filter fun admission => admission.2.operation == some operation

/-- What was admitted and read is within the limits of a policy. -/
structure BudgetsHold (inForce : BoundaryPolicyV1) (scopes : BrowserScopesV1)
    (budgets : BrowserBudgetsV1) : Prop where
  counted : budgets.targetRequests = budgets.admissions.length
  task : budgets.targetRequests ≤ inForce.taskLimit
  used : ∀ rule, budgets.used rule =
    budgets.admissions.countP fun admission => admission.2.rule.ruleId == rule.ruleId
  rules : ∀ rule, budgets.admissions.countP (fun admission => admission.2.rule == rule) ≤
    rule.maxRequests
  bodies : budgets.requestBodyBytes = bodyBytes budgets.admissions
  bodyLimit :
    budgets.requestBodyBytes ≤ inForce.policy.maxEncodedRequestBodyBytesPerBrowserTask
  scopeBytes : ∀ operation scope limits, scopes.operations[operation]? = some scope →
    scope.requestBodyPolicy = some limits →
      bodyBytes (ofScope operation budgets.admissions) ≤ scope.requestBodyBytes ∧
        scope.requestBodyBytes ≤ limits.maxEncodedRequestBodyBytesPerBrowserTask
  responses : budgets.responseBytes = (budgets.bodies.map Prod.snd).sum
  responseLimit :
    budgets.responseBytes ≤ inForce.policy.maxEncodedResponseBytesPerBrowserTask
  single : ∀ body ∈ budgets.bodies, body.2 ≤ body.1.maxEncodedResponseBytes ∧
    body.2 ≤ inForce.policy.maxSingleResponseBytes

theorem validatePostAcquireState_none (valid : validatePostAcquireState judged boundary = none) :
    browserRequestBudgetExhausted boundary.handlerState boundary.budgets judged.rule = false ∧
      boundary.budgets.requestBodyBytes + judged.bodies.task ≤
        boundary.handlerState.policy.maxEncodedRequestBodyBytesPerBrowserTask ∧
      ∀ scope bytes limits, boundary.scopes.operation? judged.operation = some scope →
        judged.bodies.operation = some bytes → scope.requestBodyPolicy = some limits →
          scope.requestBodyBytes + bytes ≤ limits.maxEncodedRequestBodyBytesPerBrowserTask := by
  simp only [validatePostAcquireState] at valid
  split_ifs at valid with closed fatal scope exhausted above
  · -- A boundary with a fatal error would have returned it.
    simp [valid] at fatal
  · refine ⟨by simpa using exhausted, by omega, ?_⟩
    intro own bytes limits found counted limited
    simp only [found, counted, limited, Option.any_some, decide_eq_true_eq] at valid
    split_ifs at valid with large
    omega

@[simp] theorem bodyBytes_cons (admission : BrowserFetchPausedV1 × JudgedBrowserRequestV1)
    (admissions : List (BrowserFetchPausedV1 × JudgedBrowserRequestV1)) :
    bodyBytes (admission :: admissions) =
      admission.1.requestBody.bytes + bodyBytes admissions := by
  simp [bodyBytes]

theorem used_charge (budgets : BrowserBudgetsV1) (paused : BrowserFetchPausedV1)
    (judged : JudgedBrowserRequestV1) (rule : BrowserEgressRuleV1) :
    (budgets.charge paused judged).used rule =
      budgets.used rule + if judged.rule.ruleId = rule.ruleId then 1 else 0 := by
  by_cases same : judged.rule.ruleId = rule.ruleId
  · simp [BrowserBudgetsV1.charge, BrowserBudgetsV1.used, same]
  · simp only [BrowserBudgetsV1.charge, BrowserBudgetsV1.used, same, if_false, Nat.add_zero]
    rw [OrderedMap.get?_set_of_ne _ _ (Ne.symm same)]

theorem countP_rule_le (admissions : List (BrowserFetchPausedV1 × JudgedBrowserRequestV1))
    (rule : BrowserEgressRuleV1) :
    admissions.countP (fun admission => admission.2.rule == rule) ≤
      admissions.countP fun admission => admission.2.rule.ruleId == rule.ruleId := by
  apply List.countP_mono_left
  intro admission _ same
  simp only [beq_iff_eq] at same ⊢
  rw [same]

theorem getElem?_charge (scopes : BrowserScopesV1) (judged : JudgedBrowserRequestV1)
    (operation : Nat) :
    (scopes.charge judged).operations[operation]? =
      if judged.operation = some operation then
        scopes.operations[operation]?.map (·.charge judged)
      else scopes.operations[operation]? := by
  cases own : judged.operation with
  | none => simp [BrowserScopesV1.charge, own]
  | some index =>
    by_cases same : index = operation
    · simp [BrowserScopesV1.charge, own, same]
    · simp [BrowserScopesV1.charge, own, same]

theorem limitsKept_charge (scopes : BrowserScopesV1) (judged : JudgedBrowserRequestV1) :
    LimitsKept scopes (scopes.charge judged) where
  length := by
    cases own : judged.operation <;> simp [BrowserScopesV1.charge, own]
  limits := by
    intro operation _
    simp only [BrowserScopesV1.limits, getElem?_charge]
    split_ifs
    · cases scopes.operations[operation]? <;> rfl
    · rfl

/-- Admitting a request that every check lets through keeps the budgets. -/
theorem BudgetsHold.charge
    (hold : BudgetsHold boundary.handlerState boundary.scopes boundary.budgets)
    (judgement : JudgedHold urls boundary.handlerState boundary.scopes paused judged)
    (valid : validatePostAcquireState judged boundary = none) :
    BudgetsHold boundary.handlerState (boundary.scopes.charge judged)
      (boundary.budgets.charge paused judged) := by
  obtain ⟨unspent, room, scopeRoom⟩ := validatePostAcquireState_none valid
  simp only [browserRequestBudgetExhausted, decide_eq_false_iff_not, not_or, not_le] at unspent
  obtain ⟨ruleLeft, optionsLeft, policyLeft⟩ := unspent
  obtain ⟨exact, scopeExact⟩ :=
    validateBrowserRequestBodiesForRule_exact judgement.bodies (by omega)
  exact {
    counted := by simp [BrowserBudgetsV1.charge, hold.counted]
    task := by
      simp only [BoundaryPolicyV1.taskLimit, BrowserBudgetsV1.charge]
      omega
    used := by
      intro rule
      rw [used_charge, hold.used rule]
      simp only [BrowserBudgetsV1.charge, List.countP_cons, beq_iff_eq]
    rules := by
      intro rule
      simp only [BrowserBudgetsV1.charge, List.countP_cons, beq_iff_eq]
      split_ifs with same
      · -- The rule had a request left, and its own are among those of its id.
        have fewer := countP_rule_le boundary.budgets.admissions rule
        have used := hold.used rule
        rw [same] at ruleLeft
        omega
      · exact hold.rules rule
    bodies := by
      simp only [BrowserBudgetsV1.charge, bodyBytes_cons, exact, hold.bodies]
      omega
    bodyLimit := room
    scopeBytes := by
      intro operation scope limits found limited
      rw [getElem?_charge] at found
      simp only [BrowserBudgetsV1.charge, ofScope, List.filter_cons, beq_iff_eq]
      split_ifs at found ⊢ with own
      · -- The request is one of the scope's own, whose check let it through.
        cases old : boundary.scopes.operations[operation]? with
        | none => simp [old] at found
        | some before =>
          simp only [old, Option.map_some, Option.some.injEq] at found
          subst found
          have kept : before.requestBodyPolicy = some limits := limited
          have earlier := hold.scopeBytes operation before limits old kept
          have bound : judged.operation.bind boundary.scopes.limits = some limits := by
            simp [own, BrowserScopesV1.limits, old, kept]
          obtain ⟨count, counted, size⟩ := scopeExact limits bound
          have left := scopeRoom before count limits
            (by simp [BrowserScopesV1.operation?, own, old]) counted kept
          have exactly := size (by omega)
          simp only [ofScope] at earlier
          simp only [ActiveBrowserOperationV1.charge, counted, Option.getD_some, bodyBytes_cons]
          omega
      · exact hold.scopeBytes operation scope limits found limited
    responses := hold.responses
    responseLimit := hold.responseLimit
    single := hold.single }

/-! What the users of the boundary do to its scopes charges nothing. -/

/-- The scopes there were keep what was charged to them, and new ones were charged nothing. -/
structure ScopesGrow (before after : BrowserScopesV1) : Prop where
  length : before.operations.length ≤ after.operations.length
  kept : ∀ operation scope, after.operations[operation]? = some scope →
    operation < before.operations.length → ∃ old, before.operations[operation]? = some old ∧
      scope.requestBodyBytes = old.requestBodyBytes ∧
      scope.requestBodyPolicy = old.requestBodyPolicy
  fresh : ∀ operation scope, after.operations[operation]? = some scope →
    before.operations.length ≤ operation → scope.requestBodyBytes = 0

theorem ScopesGrow.same {before after : BrowserScopesV1}
    (same : after.operations = before.operations) : ScopesGrow before after where
  length := by rw [same]
  kept := by
    intro operation scope found _
    rw [same] at found
    exact ⟨scope, found, rfl, rfl⟩
  fresh := by
    intro operation scope found beyond
    rw [same, List.getElem?_eq_none beyond] at found
    cases found

variable {before after : BrowserScopesV1}

theorem ScopesGrow.opened {scope : ActiveBrowserOperationV1}
    (added : after.operations = before.operations ++ [scope]) (unused : scope.requestBodyBytes = 0) :
    ScopesGrow before after where
  length := by simp [added]
  kept := by
    intro operation found' found below
    rw [added, List.getElem?_append_left below] at found
    exact ⟨found', found, rfl, rfl⟩
  fresh := by
    intro operation found' found beyond
    rw [added, List.getElem?_append_right beyond] at found
    have only := List.mem_of_getElem? found
    rw [List.mem_singleton] at only
    rw [only, unused]

theorem ScopesGrow.limitsKept (grow : ScopesGrow before after) :
    LimitsKept before after where
  length := grow.length
  limits := by
    intro operation below
    have there : operation < after.operations.length := below.trans_le grow.length
    obtain ⟨old, found, _, policy⟩ :=
      grow.kept operation _ (List.getElem?_eq_getElem there) below
    simp [BrowserScopesV1.limits, found, there, policy]

theorem ScopesHold.fewer (hold : ScopesHold before)
    (length : before.operations.length ≤ after.operations.length)
    (action : ∀ operation, after.activeAction = some operation → before.activeAction = some operation)
    (script : ∀ operation, after.activePageScript = some operation → before.activePageScript = some operation) :
    ScopesHold after := by
  intro operation active
  refine (hold operation ?_).trans_le length
  rcases active with acting | running
  · exact .inl (action operation acting)
  · exact .inr (script operation running)

/-- What the users of the boundary do to its scopes keeps the budgets of those there were. -/
theorem ScopeMove.grow (moves : ScopeMove before after) (hold : ScopesHold before) :
    ScopesGrow before after ∧ ScopesHold after := by
  cases moves with
  | same => exact ⟨.same rfl, hold⟩
  | beginRuntimeRequest =>
    simp only [BrowserScopesV1.beginRuntimeRequest]
    split_ifs
    · exact ⟨.same rfl, hold⟩
    · exact ⟨.same rfl, hold⟩
  | endRuntimeRequest scope =>
    simp only [BrowserScopesV1.endRuntimeRequest]
    split_ifs
    · exact ⟨.same rfl, hold⟩
    · exact ⟨.same rfl, hold⟩
  | beginAction expect =>
    simp only [BrowserScopesV1.beginAction]
    split_ifs with free
    · refine ⟨.opened rfl rfl, ?_⟩
      -- No page script is open, and the action is the last scope.
      intro operation active
      simp only [BrowserScopesV1.free, Bool.and_eq_true, Option.isNone_iff_eq_none] at free
      simp only [free.1.2, Option.some.injEq, reduceCtorEq, or_false] at active
      simp [← active]
    · exact ⟨.same rfl, hold⟩
  | finishAction scope expect =>
    simp only [BrowserScopesV1.finishAction]
    split_ifs with own waits
    · refine ⟨⟨by simp, ?_, ?_⟩, hold.fewer (by simp) nofun fun _ same => same⟩
      · intro operation found' found below
        simp only [List.getElem?_modify] at found
        cases old : before.operations[operation]? with
        | none => simp [old] at found
        | some scope' =>
          simp only [old] at found
          obtain ⟨same, rfl, rfl⟩ := found
          refine ⟨_, rfl, ?_⟩
          split_ifs <;> exact ⟨rfl, rfl⟩
      · intro operation found' found beyond
        rw [List.getElem?_eq_none (by simpa using beyond)] at found
        cases found
    · exact ⟨.same rfl, hold.fewer (le_refl _) nofun fun _ same => same⟩
    · exact ⟨.same rfl, hold⟩
  | abortAction scope =>
    simp only [BrowserScopesV1.abortAction]
    split_ifs
    · exact ⟨.same rfl, hold.fewer (le_refl _) nofun fun _ same => same⟩
    · exact ⟨.same rfl, hold⟩
  | beginPageScript expect limits origin =>
    simp only [BrowserScopesV1.beginPageScript]
    split_ifs with free
    · refine ⟨.opened rfl rfl, ?_⟩
      -- No action is open, and the page script is the last scope.
      intro operation active
      simp only [BrowserScopesV1.free, Bool.and_eq_true, Option.isNone_iff_eq_none] at free
      simp only [free.1.1.1, Option.some.injEq, reduceCtorEq, false_or] at active
      simp [← active]
    · exact ⟨.same rfl, hold⟩
  | endPageScript scope =>
    simp only [BrowserScopesV1.endPageScript]
    split_ifs
    · exact ⟨.same rfl, hold.fewer (le_refl _) (fun _ same => same) nofun⟩
    · exact ⟨.same rfl, hold⟩

theorem BudgetsHold.grow {urls : UrlClassV1} {inForce : BoundaryPolicyV1}
    {before after : BrowserScopesV1} {budgets : BrowserBudgetsV1}
    (hold : BudgetsHold inForce before budgets)
    (admitted : ∀ admission ∈ budgets.admissions,
      JudgedHold urls inForce before admission.1 admission.2)
    (grow : ScopesGrow before after) : BudgetsHold inForce after budgets :=
  { hold with
    scopeBytes := by
      intro operation scope limits found limited
      by_cases below : operation < before.operations.length
      · obtain ⟨old, there, bytes, policy⟩ := grow.kept operation scope found below
        rw [bytes]
        exact hold.scopeBytes operation old limits there (policy ▸ limited)
      · -- No request was admitted in a scope that was not there.
        have none : ofScope operation budgets.admissions = [] := by
          simp only [ofScope, List.filter_eq_nil_iff, beq_iff_eq]
          intro admission member own
          exact below ((admitted admission member).scope operation own)
        have unused := grow.fresh operation scope found (by omega)
        simp [none, bodyBytes, unused] }

theorem BudgetsHold.reset {inForce : BoundaryPolicyV1} {budgets : BrowserBudgetsV1}
    (hold : BudgetsHold inForce scopes budgets) (same : after.operations = scopes.operations) :
    BudgetsHold inForce after {} where
  counted := rfl
  task := Nat.zero_le _
  used := by simp [BrowserBudgetsV1.used, OrderedMap.get?]
  rules := by simp
  bodies := rfl
  bodyLimit := Nat.zero_le _
  scopeBytes := by
    intro operation scope limits found limited
    rw [same] at found
    exact ⟨Nat.zero_le _, (hold.scopeBytes operation scope limits found limited).2⟩
  responses := rfl
  responseLimit := Nat.zero_le _
  single := by simp

/-! Every step keeps the budgets. -/

/-- What a suspended handler was judged by, may read or has read. -/
def EntryHold (urls : UrlClassV1) (inForce : BoundaryPolicyV1) (scopes : BrowserScopesV1)
    (responseBytes : Nat) (entry : PausedHandlerV1 × HandlerStageV1) : Prop :=
  match entry.2 with
  | .acquiring judged | .granted judged _ => JudgedHold urls inForce scopes entry.1.paused judged
  | .reading admission limit remaining =>
    limit = responseLimit inForce.policy admission.rule remaining ∧
      remaining ≤ inForce.policy.maxEncodedResponseBytesPerBrowserTask - (responseBytes : Int)
  | .bodyRead admission (.body bytes) =>
    bytes.length ≤ admission.rule.maxEncodedResponseBytes ∧
      bytes.length ≤ inForce.policy.maxSingleResponseBytes
  | _ => True

theorem EntryHold.kept {urls : UrlClassV1} {inForce : BoundaryPolicyV1}
    {before after : BrowserScopesV1} {read read' : Nat} {entry : PausedHandlerV1 × HandlerStageV1}
    (hold : EntryHold urls inForce before read entry) (kept : LimitsKept before after)
    (less : read' ≤ read ∨ entry.2.isReading = false) :
    EntryHold urls inForce after read' entry := by
  obtain ⟨handler, stage⟩ := entry
  cases stage with
  | acquiring judged =>
    have judgement : JudgedHold urls inForce before handler.paused judged := hold
    exact judgement.kept kept
  | granted judged permit =>
    have judgement : JudgedHold urls inForce before handler.paused judged := hold
    exact judgement.kept kept
  | reading admission limit remaining =>
    obtain ⟨same, left⟩ : limit = responseLimit inForce.policy admission.rule remaining ∧
      remaining ≤ inForce.policy.maxEncodedResponseBytesPerBrowserTask - (read : Int) := hold
    refine ⟨same, ?_⟩
    have fewer : read' ≤ read := less.resolve_right (by simp [HandlerStageV1.isReading])
    omega
  | bodyRead admission outcome =>
    cases outcome with
    | body bytes => exact hold
    | failed error => exact trivial
    | dropped => exact trivial
  | _ => exact trivial

/-- The bytes that a handler has read and not handed to the page. -/
def waitingBytes (entry : PausedHandlerV1 × HandlerStageV1) : Nat :=
  match entry.2 with
  | .bodyRead _ (.body bytes) => bytes.length
  | _ => 0

/-- A step that at most suspends handlers again, of which as much is known. -/
structure Adds (urls : UrlClassV1) (before after : BrowserBoundaryV1) : Prop where
  current : after.current = before.current
  handlerState : after.handlerState = before.handlerState
  scopes : after.scopes = before.scopes
  budgets : after.budgets = before.budgets
  handed : after.handed = before.handed
  suspended : ∃ added, after.handlers.suspended = added ++ before.handlers.suspended ∧
    ∀ entry ∈ added, waitingBytes entry = 0 ∧
      EntryHold urls before.handlerState before.scopes before.budgets.responseBytes entry

theorem fail_adds (urls : UrlClassV1) (handler : PausedHandlerV1)
    (error : PublicHttpExecutionError) (boundary : BrowserBoundaryV1) :
    Adds urls boundary (boundary.fail handler error) :=
  ⟨rfl, rfl, rfl, rfl, rfl, [(handler, .answering)], rfl, by simp [waitingBytes, EntryHold]⟩

theorem deny_adds (urls : UrlClassV1) (handler : PausedHandlerV1) (boundary : BrowserBoundaryV1) :
    Adds urls boundary (boundary.deny urls handler) :=
  ⟨rfl, rfl, rfl, rfl, rfl, [(handler, .answering)], rfl, by simp [waitingBytes, EntryHold]⟩

theorem Adds.none {before after : BrowserBoundaryV1} (current : after.current = before.current)
    (handlerState : after.handlerState = before.handlerState)
    (scopes : after.scopes = before.scopes) (budgets : after.budgets = before.budgets)
    (handed : after.handed = before.handed)
    (suspended : after.handlers.suspended = before.handlers.suspended) : Adds urls before after :=
  ⟨current, handlerState, scopes, budgets, handed, [], suspended, by simp⟩

theorem Adds.like {first second third : BrowserBoundaryV1} (left : Adds urls first second)
    (none : second.handlers.suspended = first.handlers.suspended) (right : Adds urls second third) :
    Adds urls first third where
  current := right.current.trans left.current
  handlerState := right.handlerState.trans left.handlerState
  scopes := right.scopes.trans left.scopes
  budgets := right.budgets.trans left.budgets
  handed := right.handed.trans left.handed
  suspended := by
    obtain ⟨added, same, known⟩ := right.suspended
    refine ⟨added, by rw [same, none], ?_⟩
    rw [left.handlerState, left.scopes, left.budgets] at known
    exact known

theorem followRedirectHop_adds (urls : UrlClassV1) (paused : BrowserFetchPausedV1)
    (boundary : BrowserBoundaryV1) : Adds urls boundary (followRedirectHop paused boundary).1 := by
  cases redirected : paused.redirectedFrom with
  | none =>
    simp only [followRedirectHop, redirected]
    exact Adds.none rfl rfl rfl rfl rfl rfl
  | some requestId =>
    cases found : OrderedMap.get? boundary.traffic.admitted requestId with
    | none =>
      simp only [followRedirectHop, redirected, found]
      exact Adds.none rfl rfl rfl rfl rfl rfl
    | some admission =>
      simp only [followRedirectHop, redirected, found]
      split_ifs <;> exact Adds.none rfl rfl rfl rfl rfl rfl

theorem handleBrowserRequestStage_adds (urls : UrlClassV1) (handler : PausedHandlerV1)
    (boundary : BrowserBoundaryV1) (scopes : ScopesHold boundary.scopes) :
    Adds urls boundary (handleBrowserRequestStage urls handler boundary) := by
  have superseded : Adds urls boundary { boundary with
      traffic := supersedeEarlierAttempts handler.paused boundary.traffic } :=
    Adds.none rfl rfl rfl rfl rfl rfl
  have followed := superseded.like rfl (followRedirectHop_adds urls handler.paused _)
  have same := followRedirectHop_handlers handler.paused { boundary with
    traffic := supersedeEarlierAttempts handler.paused boundary.traffic }
  simp only [handleBrowserRequestStage]
  split
  · next next error redirected =>
    rw [redirected] at followed same
    exact followed.like (by rw [same]) (fail_adds urls handler error _)
  · next next redirected =>
    rw [redirected] at followed same
    split
    · exact followed.like (by rw [same]) (deny_adds urls handler _)
    · exact followed.like (by rw [same]) (fail_adds urls handler _ _)
    · next judged decided =>
      refine followed.like (by rw [same]) ⟨rfl, rfl, rfl, rfl, rfl, [(handler, .acquiring judged)], rfl, ?_⟩
      have known : ScopesHold next.scopes := by
        have unchanged : next.scopes = boundary.scopes := followed.scopes
        rwa [unchanged]
      have judgement := decideBrowserRequest_await known decided
      simpa [waitingBytes, EntryHold] using judgement

theorem handleResponseStage_adds (urls : UrlClassV1) (handler : PausedHandlerV1) (status : Nat)
    (boundary : BrowserBoundaryV1) :
    Adds urls boundary (handleResponseStage urls handler status boundary) := by
  simp only [handleResponseStage]
  split
  · exact fail_adds urls handler _ boundary
  · next admission found =>
    split_ifs
    · simp only [continueRedirect]
      split_ifs
      · refine Adds.like ?_ ?_ (fail_adds urls handler _ _)
        · exact Adds.none rfl rfl rfl rfl rfl rfl
        · rfl
      · exact ⟨rfl, rfl, rfl, rfl, rfl, [(handler, .redirecting admission.permit)], rfl,
          by simp [waitingBytes, EntryHold]⟩
    · exact ⟨rfl, rfl, rfl, rfl, rfl, [(handler, .queued admission)], rfl,
        by simp [waitingBytes, EntryHold]⟩

theorem handleFetchPaused_adds (urls : UrlClassV1) (paused : BrowserFetchPausedV1)
    (boundary : BrowserBoundaryV1) (scopes : ScopesHold boundary.scopes) :
    Adds urls boundary (boundary.handleFetchPaused urls paused) := by
  simp only [BrowserBoundaryV1.handleFetchPaused]
  split
  · refine Adds.like ?_ ?_ (fail_adds urls _ _ _)
    · exact Adds.none rfl rfl rfl rfl rfl rfl
    · rfl
  · refine Adds.like ?_ ?_ (fail_adds urls _ _ _)
    · exact Adds.none rfl rfl rfl rfl rfl rfl
    · rfl
  · refine Adds.like ?_ ?_ (handleBrowserRequestStage_adds urls _ _ ?_)
    · exact Adds.none rfl rfl rfl rfl rfl rfl
    · rfl
    · exact scopes
  · refine Adds.like ?_ ?_ (handleResponseStage_adds urls _ _ _)
    · exact Adds.none rfl rfl rfl rfl rfl rfl
    · rfl

theorem readChunks_body {limit : Int} (replies : List StreamReplyV1) {read bytes : Bytes}
    (ended : readChunks limit replies read = some (.body bytes)) : (bytes.length : Int) ≤ limit := by
  -- The induction follows the replies, each of which is checked before the next one.
  induction replies generalizing read with
  | nil => simp [readChunks] at ended
  | cons reply rest ih =>
    cases reply with
    | dropped => simp [readChunks] at ended
    | lacks property => simp [readChunks, lacksProperty] at ended
    | chunk data eof =>
      simp only [readChunks] at ended
      split_ifs at ended with above
      · simp [tooLarge] at ended
      · cases eof with
        | none => simp [lacksProperty] at ended
        | some last =>
          cases last with
          | true =>
            simp only [Option.some.injEq, BodyOutcomeV1.body.injEq] at ended
            rw [← ended]
            omega
          | false => exact ih ended

theorem readPausedResponseBody_body {limit : Int} {replies : List StreamReplyV1} {bytes : Bytes}
    (ended : readPausedResponseBody limit replies = some (.body bytes)) :
    (bytes.length : Int) ≤ limit := by
  simp only [readPausedResponseBody] at ended
  split_ifs at ended
  · simp [tooLarge] at ended
  · cases replies with
    | nil => simp at ended
    | cons reply rest =>
      cases reply with
      | dropped => simp at ended
      | lacks property => simp [lacksProperty] at ended
      | chunk data eof => exact readChunks_body rest ended

end Klura
