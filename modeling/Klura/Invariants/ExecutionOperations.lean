import Klura.Execution.Cascade

/-! Which operations an execution performs, against any contract that admits those of its scope. -/

namespace Klura

open Interaction

/-- What an execution may use: platforms, accounts and requests, what outlives it, and tokens; and
which of Node's transports may fail. -/
structure ExecutionScope where
  platform : Units → Prop
  account : Option Units → Prop
  role : RequestRoleV1 → Prop
  /-- What the steps of recorded paths may be run for. -/
  steps : RequestRoleV1 → Prop
  /-- Whether jars, sessions, cached results and the records of strategies may be used. -/
  persists : Prop
  tokens : Prop
  httpFails : Prop
  socketFails : Prop

/-- What outlives an execution may be used for an account on a platform. -/
def ExecutionScope.Uses (scope : ExecutionScope) (platform : Units) (identity : Option Units) :
    Prop :=
  scope.persists ∧ scope.platform platform ∧ scope.account identity

/-- A session may be used with the account it was opened for. -/
def ExecutionScope.Drives (scope : ExecutionScope) (session : SessionV1) : Prop :=
  scope.Uses session.platform session.identity

/-- Whether an operation that does not throw is in a scope. -/
def SureOpV1.Within (scope : ExecutionScope) : SureOpV1 → Prop
  | .shouldSkipBrokenTier .. | .updateHealth .. | .getHealthIsBroken ..
  | .recordNodeTransportFailure .. => scope.persists
  | .tokenGet .. => scope.tokens
  | .capabilityCacheGet platform identity .. | .capabilityCacheSet platform identity ..
  | .evictForCapability platform identity _ | .readStorageStateCookies platform identity _
  | .writeStorageStateCookies platform identity .. | .loadStorageStatePath platform identity =>
    scope.Uses platform identity
  | .sendNodeRequest role .. | .readBody role _ | .sendNodeWebSocketFrame role .. =>
    scope.role role
  | .getUrl session | .waitForWsOpen session _ | .endDriveQuietly session => scope.Drives session

/-- Whether an operation that may throw is in a scope. -/
def RiskyOpV1.Within (scope : ExecutionScope) : RiskyOpV1 → Prop
  | .loadStrategies .. | .loadStrategy .. | .findCapabilitiesProviding ..
  | .isCapabilityForbidden .. | .isTierAllowed .. | .acquirePermit .. | .releasePermit _ => True
  | .getIdentity _ identity => scope.account identity
  | .archiveStrategy .. | .demoteFetchToPageScript .. | .stampPostSaveValidationProof .. =>
    scope.persists
  | .tokenSet .. => scope.tokens
  | .saveStorageState platform identity | .tryCheckoutReadySession platform identity ..
  | .createSession platform identity _ => scope.Uses platform identity
  | .driverSaveStorageState session platform identity =>
    scope.Drives session ∧ scope.Uses platform identity
  | .runBrowserPrereq session .. | .fireInterrupts session .. | .navigate session _
  | .htmlToAriaLikeTree session _ | .runWsOpenSteps session _ | .evaluateFrame session ..
  | .waitForAck session _ | .endDrive session => scope.Drives session
  | .fetchInBrowser role session _ | .sendWebSocketFrame role session .. =>
    scope.Drives session ∧ scope.role role
  | .executeSteps role session .. | .replayStep role session .. =>
    scope.Drives session ∧ scope.steps role

/-- Whether an operation is in a scope. -/
def LocalOpV1.Within (scope : ExecutionScope) : LocalOpV1 → Prop
  | .sure op => op.Within scope
  | .risky op => op.Within scope

/-- A contract admits a scope, where executions fail with certain errors: all of their own, and those
of Node's transport only where it may fail. -/
structure AdmitsScope {γ : Type} (contract : Contract localInterface γ) (ghost : γ)
    (scope : ExecutionScope) (errors : LocalErrorV1 → Prop) : Prop where
  allowed : ∀ op : LocalOpV1, op.Within scope → contract.Allows ghost op
  thrown : ∀ op error, contract.rely ghost (.risky op) (.error error) → errors error
  own : ∀ error, (∀ signal, error ≠ .transportFailure signal) → errors error
  signals : ∀ role workload request cause message dispatches signal,
    contract.rely ghost (.sure (.sendNodeRequest role workload request))
      (.failed cause message dispatches) →
    classifyFetchThrow cause = some signal → errors (.transportFailure signal)
  failures : ∀ signal, errors (.transportFailure signal) → scope.httpFails
  frames : ∀ role url headers frame ackMatch failure error,
    contract.rely ghost (.sure (.sendNodeWebSocketFrame role url headers frame ackMatch))
      (.failed failure false error) →
    isWebSocketTransportFailure failure = true → scope.socketFails
  borrowed : ∀ platform identity url wsUrl id owner, scope.account identity →
    contract.rely ghost (.risky (.tryCheckoutReadySession platform identity url wsUrl))
      (.ok (some (id, owner))) → scope.account owner

/-- An answer is not that Node's transport over HTTP fails. -/
def HttpHolds : (op : LocalOpV1) → op.Answer → Prop
  | .sure (.sendNodeRequest ..), answer => ∀ cause message dispatches,
      answer = NodeFetchV1.failed cause message dispatches → classifyFetchThrow cause = none
  | .sure _, _ => True
  | .risky _, answer => ∀ signal, answer ≠ .error (.transportFailure signal)

/-- An answer is not that Node's transport over web sockets fails. -/
def SocketHolds : (op : LocalOpV1) → op.Answer → Prop
  | .sure (.sendNodeWebSocketFrame ..), answer => ∀ failure error,
      answer = NodeFrameV1.failed failure false error → isWebSocketTransportFailure failure = false
  | _, _ => True

/-- The strategies that are found saved have a property. -/
def FindsOnly (property : LocalStrategyV1 → Prop) : (op : LocalOpV1) → op.Answer → Prop
  | .risky (.loadStrategies ..), answer =>
    ∀ saved : List LocalStrategyV1, answer = Except.ok saved → ∀ strategy ∈ saved, property strategy
  | _, _ => True

/-- A session that is found ready was opened for an account with a property. -/
def BorrowsOnly (property : Option Units → Prop) : (op : LocalOpV1) → op.Answer → Prop
  | .risky (.tryCheckoutReadySession ..), answer =>
    ∀ (id : Nat) (owner : Option Units), answer = Except.ok (some (id, owner)) → property owner
  | _, _ => True

/-- Whether a prerequisite is one on a capability. -/
def StrategyPrereqV1.isOnCapability (prereq : StrategyPrereqV1) : Prop :=
  prereq.kind = .capability ∨ prereq.kind = .tag

/-- Whether a prerequisite is fetched, from Node, rather than looked up or executed. -/
def StrategyPrereqV1.isFetched (prereq : StrategyPrereqV1) : Prop :=
  prereq.kind ≠ .cached ∧ ¬prereq.isOnCapability

/-- Whether an execution of a strategy stays in a scope, where a failure of Node's transport may lead
to its page. -/
structure LocalStrategyV1.Fits (scope : ExecutionScope)
    (hasPool suppressStrategyState withoutPersistedCookies : Bool) (strategy : LocalStrategyV1) :
    Prop where
  platforms : ∀ prereq ∈ strategy.prerequisites, ∀ target, prereq.platform = some target →
    scope.platform target
  fetched : strategy.tier = .fetch → ∀ prereq ∈ strategy.prerequisites, prereq.isFetched →
    scope.persists ∧ (strategy.websocket.isSome = true → scope.account none)
  capabilities : strategy.tier = .fetch → ∀ prereq ∈ strategy.prerequisites,
    prereq.isOnCapability → suppressStrategyState = false ∨ strategy.websocket.isSome = true →
    scope.persists
  jar : strategy.tier = .fetch → strategy.responseFrom = none → strategy.websocket = none →
    withoutPersistedCookies = false → scope.persists
  fallback : hasPool = true → strategy.tier = .fetch → strategy.websocket = none →
    scope.httpFails → scope.persists ∧ scope.account none
  page : hasPool = true → strategy.tier = .pageScript →
    strategy.websocket = none ∨ suppressStrategyState = false ∧ strategy.anchor.isSome = true →
    scope.persists ∧ scope.account none
  sessions : hasPool = true → strategy.tier ≠ .fetch ∨
      strategy.websocket.isSome = true ∧ (scope.httpFails ∨ scope.socketFails) →
    scope.persists ∧ ∀ prereq ∈ strategy.prerequisites, prereq.isOnCapability →
      scope.account none

/-- Every strategy fits a scope of all platforms in which what outlives an execution may be used, and
for the default account too. -/
theorem LocalStrategyV1.fits_open {scope : ExecutionScope}
    {hasPool suppressStrategyState withoutPersistedCookies : Bool} {strategy : LocalStrategyV1}
    (persists : scope.persists) (default : scope.account none)
    (platforms : ∀ prereq ∈ strategy.prerequisites, ∀ target, prereq.platform = some target →
      scope.platform target) :
    strategy.Fits scope hasPool suppressStrategyState withoutPersistedCookies where
  platforms
  fetched _ _ _ _ := ⟨persists, fun _ => default⟩
  capabilities _ _ _ _ _ := persists
  jar _ _ _ _ := persists
  fallback _ _ _ _ := ⟨persists, default⟩
  page _ _ _ := ⟨persists, default⟩
  sessions _ _ := ⟨persists, fun _ _ _ => default⟩

section

variable {γ α : Type} {contract : Contract localInterface γ} {ghost : γ} {scope : ExecutionScope}
  {errors : LocalErrorV1 → Prop}

theorem AdmitsScope.performs (admits : AdmitsScope contract ghost scope errors) {op : SureOpV1}
    (within : op.Within scope) : Stays contract ghost errors (performs op) :=
  .perform (admits.allowed (.sure op) within)

theorem AdmitsScope.attempts (admits : AdmitsScope contract ghost scope errors) {op : RiskyOpV1}
    (within : op.Within scope) : Stays contract ghost errors (attempts op) := by
  refine .performing (admits.allowed (.risky op) within) fun answer relied => .ofExcept ?_
  intro error same
  subst same
  exact admits.thrown op error relied

theorem AdmitsScope.resolves (admits : AdmitsScope contract ghost scope errors) (result : Except Units α) :
    Stays contract ghost errors (resolves result) := by
  refine .ofExcept fun error same => admits.own error fun signal => ?_
  cases result with
  | ok value => nomatch same
  | error message =>
    cases same
    exact LocalErrorV1.noConfusion

variable {code : LocalCodeV1} {platform capability : Units} {identity : Option Units}

theorem readPrereqResponse_stays (admits : AdmitsScope contract ghost scope errors)
    (role : scope.role .prerequisite) (uses : scope.Uses platform identity)
    (prereq : StrategyPrereqV1) (url : Units) (response : NodeFetchedV1) :
    Stays contract ghost errors
      (readPrereqResponse code prereq platform identity url response) := by
  refine .bind (.whenever fun _ => admits.performs uses) fun _ => ?_
  refine .ite (fun _ => .throw (admits.own _ nofun)) fun _ => .bind (admits.performs role) ?_
  intro answer
  cases answer with
  | timedOut => exact .throw (admits.own _ nofun)
  | failed message => exact .throw (admits.own _ nofun)
  | text text =>
    refine .ofExcept fun error same => admits.own error fun signal => ?_
    cases extracted : code.extractTokens prereq text with
    | ok tokens => rw [extracted] at same; nomatch same
    | error failure => rw [extracted] at same; cases same; exact LocalErrorV1.noConfusion

theorem AdmitsScope.unknown (admits : AdmitsScope contract ghost scope errors) (method url : Units) :
    errors (dispatchedHttpDeliveryUnknown code method url) := by
  refine admits.own _ fun signal => ?_
  unfold dispatchedHttpDeliveryUnknown
  exact LocalErrorV1.noConfusion

variable {error : LocalErrorV1}

theorem AdmitsScope.mapped (admits : AdmitsScope contract ghost scope errors) (method url : Units)
    (expected : errors error) :
    errors (mapDispatchedHttpTimeout code method url error) := by
  unfold mapDispatchedHttpTimeout
  split
  · split
    · exact admits.unknown method url
    · exact expected
  · exact expected

variable {fetch : NodeFetchV1}

/-- A prerequisite's request that brings no response fails with an expected error, when Node's
transport fails with expected ones. -/
theorem prereqFetchError_errors (admits : AdmitsScope contract ghost scope errors)
    (prereq : StrategyPrereqV1) (method url : Units)
    (signals : ∀ cause message dispatches signal, fetch = .failed cause message dispatches → classifyFetchThrow cause = some signal → errors (.transportFailure signal)) :
    errors (prereqFetchError code prereq method url fetch) := by
  cases fetch with
  | response response => exact admits.own _ nofun
  | timedOut =>
    unfold prereqFetchError
    dsimp only
    split
    · exact admits.unknown method url
    · exact admits.own _ nofun
  | scheduler found dispatches =>
    unfold prereqFetchError
    dsimp only
    split
    · exact admits.own _ nofun
    · split
      · exact admits.unknown method url
      · exact admits.own _ nofun
  | failed cause message dispatches =>
    unfold prereqFetchError
    dsimp only
    split
    · exact admits.unknown method url
    · split
      · next signal classified => exact signals cause message dispatches signal rfl classified
      · exact admits.own _ nofun

theorem fetchPrereqFromNode_stays (admits : AdmitsScope contract ghost scope errors)
    (role : scope.role .prerequisite) (uses : scope.Uses platform identity)
    (prereq : StrategyPrereqV1) (given : CallArgs) :
    Stays contract ghost errors
      (fetchPrereqFromNode code prereq given platform capability identity) := by
  unfold fetchPrereqFromNode
  split
  · exact .throw (admits.own _ nofun)
  · exact .throw (admits.own _ nofun)
  · refine .bind (admits.resolves _) fun url => .ite (fun _ => .throw (admits.own _ nofun))
      fun _ => .ite (fun _ => .throw (admits.own _ nofun)) fun _ => .bind (admits.resolves _)
        fun request => .bind (admits.performs uses) fun cookies =>
          .performing (admits.allowed _ role) ?_
    intro fetched relied
    cases fetched with
    | response response =>
      exact .tryFinally (.tryCatch (readPrereqResponse_stays admits role uses prereq url response)
        fun _ expected => .throw (admits.mapped _ _ expected)) (admits.attempts trivial)
    | timedOut => exact .throw (prereqFetchError_errors admits prereq _ url nofun)
    | scheduler found dispatches =>
      exact .throw (prereqFetchError_errors admits prereq _ url nofun)
    | failed cause message dispatches =>
      -- Only here can the transport be what failed.
      refine .throw (prereqFetchError_errors admits prereq _ url ?_)
      intro cause message dispatches signal same classified
      cases same
      exact admits.signals _ _ _ _ _ _ _ relied classified

variable {execute : SubCallV1 → LocalProgram LocalResultV1}

/-- The capabilities below an execution may be executed for an account. -/
def StaysBelow (contract : Contract localInterface γ) (ghost : γ) (errors : LocalErrorV1 → Prop)
    (scope : ExecutionScope) (execute : SubCallV1 → LocalProgram LocalResultV1)
    (suppressStrategyState : Bool) : Prop :=
  ∀ call : SubCallV1, scope.platform call.platform → scope.account call.identity →
    call.suppressStrategyState = suppressStrategyState → 0 < call.depth →
    Stays contract ghost errors (execute call)

theorem targetCapability_stays (admits : AdmitsScope contract ghost scope errors)
    (prereq : StrategyPrereqV1) (target : Units) :
    Stays contract ghost errors (targetCapability prereq target) := by
  unfold targetCapability
  refine .ite (fun _ => ?_) fun _ => ?_
  · split
    · exact .throw (admits.own _ nofun)
    · exact .throw (admits.own _ nofun)
    · refine .bind (admits.attempts trivial) fun found => ?_
      split
      · exact .throw (admits.own _ nofun)
      · exact .pure _
      · exact .throw (admits.own _ nofun)
  · split
    · exact .throw (admits.own _ nofun)
    · exact .pure _

theorem getCachedOrExecuted_stays (admits : AdmitsScope contract ghost scope errors) {call : SubCallV1}
    {ttlMs : Int} (uses : 0 < ttlMs → scope.Uses call.platform call.identity)
    (below : Stays contract ghost errors (execute call)) :
    Stays contract ghost errors (getCachedOrExecuted execute call ttlMs) := by
  refine .bind (.orElse fun cached => admits.performs (uses cached)) fun hit => ?_
  split
  · exact .pure _
  · refine .bind below fun fresh => .bind ?_ fun _ => .pure _
    exact .whenever fun cached => admits.performs (uses cached)

variable {prereq : StrategyPrereqV1}

/-- A value that a path does not lead to is no failure of the transport. -/
theorem bindVars_errors (admits : AdmitsScope contract ghost scope errors) {body : JsValue}
    {vars : List (Units × Units)} (failed : bindVars code prereq body vars = .error error) :
    errors error := by
  induction vars generalizing error with
  | nil => nomatch failed
  | cons entry rest ih =>
    obtain ⟨name, path⟩ := entry
    simp only [bindVars, bind, Except.bind] at failed
    cases value : boundValue code prereq body name path with
    | error found =>
      rw [value] at failed
      cases failed
      unfold boundValue at value
      split at value
      · nomatch value
      · split at value
        · nomatch value
        · split at value
          · nomatch value
          · cases value
            exact admits.own _ nofun
    | ok first =>
      rw [value] at failed
      cases others : bindVars code prereq body rest with
      | error found =>
        simp only [others] at failed
        cases failed
        exact ih others
      | ok values =>
        simp only [others] at failed
        nomatch failed

theorem boundOf_errors (admits : AdmitsScope contract ghost scope errors) {result : LocalResultV1}
    (failed : boundOf code prereq result = .error error) : errors error := by
  unfold boundOf at failed
  cases ended : classifyFactoryExecutionResult result.toExecuteResultV1 with
  | notRun | transportFailure | explicitFailure =>
    simp only [ended] at failed
    split at failed
    · nomatch failed
    · cases failed
      exact admits.own _ nofun
  | deliveryUnknown =>
    simp only [ended] at failed
    cases failed
    exact admits.own _ nofun
  | explicitSuccess | transportAccepted =>
    simp only [ended] at failed
    split at failed
    · nomatch failed
    · cases bound : bindVars code prereq result.body (prereq.vars.getD []) with
      | ok values => rw [bound] at failed; nomatch failed
      | error found =>
        rw [bound] at failed
        cases failed
        exact bindVars_errors admits bound

/-- The platform of a prerequisite, or else that of its caller, is in a scope that both are in. -/
theorem target_scope (onPlatform : scope.platform platform)
    (target : ∀ target, prereq.platform = some target → scope.platform target) :
    scope.platform (match prereq.platform with
      | some (unit :: rest) => unit :: rest
      | _ => platform) := by
  split
  · next unit rest named => exact target _ named
  · exact onPlatform

theorem resolveCapabilityPrereq_stays (admits : AdmitsScope contract ghost scope errors)
    {suppressStrategyState : Bool} (persists : suppressStrategyState = false → scope.persists)
    (onPlatform : scope.platform platform) (forAccount : scope.account identity)
    (below : StaysBelow contract ghost errors scope execute suppressStrategyState)
    (target : ∀ target, prereq.platform = some target → scope.platform target) (args : CallArgs)
    (tokens : OrderedMap Units JsValue) (depth : Nat) :
    Stays contract ghost errors (resolveCapabilityPrereq code execute prereq platform args tokens
      depth identity suppressStrategyState) := by
  unfold resolveCapabilityPrereq
  have targeted := target_scope onPlatform target
  refine .bind (targetCapability_stays admits prereq _) fun capability =>
    .bind (admits.resolves _) fun resolved => ?_
  cases suppressStrategyState with
  | true =>
    -- A time of zero asks nothing of the cache.
    refine .pureBind (.bind ?_ fun result => .ofExcept fun error => boundOf_errors admits)
    refine getCachedOrExecuted_stays admits (fun cached => absurd cached (by decide)) ?_
    exact below _ targeted forAccount rfl (Nat.succ_pos _)
  | false =>
    refine .bind (.orElse fun _ => .bind (admits.attempts trivial) fun saved => .pure _) ?_
    intro ttlMs
    refine .bind ?_ fun result => .ofExcept fun error => boundOf_errors admits
    exact getCachedOrExecuted_stays admits (fun _ => ⟨persists rfl, targeted, forAccount⟩)
      (below _ targeted forAccount rfl (Nat.succ_pos _))

variable {hasTokenCache : Bool}

theorem cachedToken_stays (admits : AdmitsScope contract ghost scope errors)
    (tokens : hasTokenCache = true → scope.tokens) (prereq : StrategyPrereqV1) :
    Stays contract ghost errors (cachedToken hasTokenCache platform prereq) :=
  .bind (.orElse fun cached => admits.performs (tokens cached)) fun _ => .pure _

theorem keepToken_stays (admits : AdmitsScope contract ghost scope errors)
    (tokens : hasTokenCache = true → scope.tokens) (prereq : StrategyPrereqV1)
    (bound : OrderedMap Units JsValue) :
    Stays contract ghost errors (keepToken hasTokenCache platform prereq bound) := by
  unfold keepToken
  split
  · exact admits.attempts (tokens rfl)
  · exact .pure _

variable {resolve : CapabilityResolver}

variable {prerequisites : List StrategyPrereqV1}

theorem resolveNodeCompatiblePrereqs_stays (admits : AdmitsScope contract ghost scope errors)
    (tokens : hasTokenCache = true → scope.tokens) (role : scope.role .prerequisite)
    {args : CallArgs}
    (fetches : ∀ prereq ∈ prerequisites, prereq.isFetched → scope.Uses platform identity)
    (resolves : ∀ prereq ∈ prerequisites, prereq.isOnCapability → ∀ bound, Stays contract ghost errors (resolve prereq bound))
    (bound : OrderedMap Units JsValue) :
    Stays contract ghost errors (resolveNodeCompatiblePrereqs code hasTokenCache resolve args
      platform capability identity prerequisites bound) := by
  induction prerequisites generalizing bound with
  | nil => exact .pure _
  | cons prereq rest ih =>
    have fetched := fetches prereq List.mem_cons_self
    have resolved := resolves prereq List.mem_cons_self
    refine .bind ?_ fun next => ih (fun other member => fetches other (List.mem_cons_of_mem _ member))
      (fun other member => resolves other (List.mem_cons_of_mem _ member)) next
    unfold resolveNodePrereq
    simp only [StrategyPrereqV1.isFetched, StrategyPrereqV1.isOnCapability] at fetched resolved
    split
    · exact .bind (cachedToken_stays admits tokens prereq) fun _ => .pure _
    · next kind => exact .bind (resolved (.inl kind) bound) fun _ => .pure _
    · next kind => exact .bind (resolved (.inr kind) bound) fun _ => .pure _
    · next notCached notCapability notTag =>
      have uses := fetched ⟨notCached, fun either => either.elim notCapability notTag⟩
      refine .bind (.orElse fun asked => admits.performs (tokens asked.2)) fun cached => ?_
      exact .bind (fetchPrereqFromNode_stays admits role uses prereq _) fun extracted =>
        .bind (keepToken_stays admits tokens prereq extracted) fun _ => .pure _

theorem scanCachedPrereqs_stays (admits : AdmitsScope contract ghost scope errors)
    (tokens : hasTokenCache = true → scope.tokens)
    (resolves : ∀ prereq ∈ prerequisites, prereq.isOnCapability → ∀ bound, Stays contract ghost errors (resolve prereq bound))
    (bound : OrderedMap Units JsValue) :
    Stays contract ghost errors
      (scanCachedPrereqs hasTokenCache platform resolve prerequisites bound) := by
  induction prerequisites generalizing bound with
  | nil => exact .pure _
  | cons prereq rest ih =>
    have resolved := resolves prereq List.mem_cons_self
    refine .bind ?_ fun next => .bind (ih
      (fun other member => resolves other (List.mem_cons_of_mem _ member)) _) fun _ => .pure _
    unfold scanCachedPrereq
    simp only [StrategyPrereqV1.isOnCapability] at resolved
    split
    · exact .bind (cachedToken_stays admits tokens prereq) fun _ => .pure _
    · next kind => exact .bind (resolved (.inl kind) bound) fun _ => .pure _
    · next kind => exact .bind (resolved (.inr kind) bound) fun _ => .pure _
    · exact .bind (.orElse fun asked => admits.performs (tokens asked.2)) fun _ => .pure _

theorem runBrowserPrereqs_stays (admits : AdmitsScope contract ghost scope errors)
    (tokens : hasTokenCache = true → scope.tokens) {session : SessionV1}
    (drives : scope.Drives session) {args : CallArgs} {fresh : Option Units}
    (prerequisites : List StrategyPrereqV1) (bound : OrderedMap Units JsValue) :
    Stays contract ghost errors
      (runBrowserPrereqs hasTokenCache session platform args fresh prerequisites bound) := by
  induction prerequisites generalizing bound with
  | nil => exact .pure _
  | cons prereq rest ih =>
    refine .bind (admits.attempts drives) fun extracted => .bind ?_ fun _ => ih _
    exact .whenever fun _ => keepToken_stays admits tokens prereq _

theorem tryCheckoutReadySession_keeps (admits : AdmitsScope contract ghost scope errors)
    (uses : scope.Uses platform identity) (ready : Option (Units × Option Units)) :
    (tryCheckoutReadySession platform identity ready).Keeps contract
      (fun found after => after = ghost ∧ ∀ session, found = some session →
        scope.account session.2)
      (fun error after => after = ghost ∧ errors error) ghost := by
  unfold tryCheckoutReadySession
  split
  · next url wsUrl =>
    have allowed := admits.allowed
      (.risky (.tryCheckoutReadySession platform identity url wsUrl)) uses
    unfold attempts
    rw [keeps_bind, keeps_perform]
    refine ⟨allowed.1, fun answer relied => ?_⟩
    rw [allowed.2 answer relied]
    cases answer with
    | ok found =>
      refine ⟨rfl, fun session same => ?_⟩
      subst same
      exact admits.borrowed _ _ _ _ _ _ uses.2.2 relied
    | error error => exact ⟨rfl, admits.thrown _ error relied⟩
  · exact ⟨rfl, nofun⟩

variable {onReturn : α → γ → Prop} {onFailure : LocalErrorV1 → γ → Prop}

theorem openSession_bind (admits : AdmitsScope contract ghost scope errors)
    (uses : scope.Uses platform identity) {ready : Option (Units × Option Units)}
    {storageState : Bool} {inside : SessionV1 → LocalProgram α}
    (failed : ∀ error, errors error → onFailure error ghost)
    (keeps : ∀ session, scope.Drives session → (inside session).Keeps contract onReturn onFailure ghost) :
    (openSession platform identity ready storageState >>= inside).Keeps contract onReturn onFailure
      ghost := by
  unfold openSession
  rw [keeps_bind, keeps_bind]
  refine (tryCheckoutReadySession_keeps admits uses ready).mono ?_ ?_
  · intro found after ⟨same, owned⟩
    subst same
    cases found with
    | some session =>
      refine (keeps_pure _).mpr (keeps _ ?_)
      exact ⟨uses.1, uses.2.1, owned session rfl⟩
    | none =>
      have created : Stays contract after errors
          (attempts (.createSession platform identity storageState)) := admits.attempts uses
      dsimp only
      rw [keeps_bind]
      exact created.keeps (fun id => (keeps_pure _).mpr (keeps _ uses)) failed
  · intro error after ⟨same, expected⟩
    subst same
    exact failed error expected

theorem Stays.openSession (admits : AdmitsScope contract ghost scope errors)
    (uses : scope.Uses platform identity) {ready : Option (Units × Option Units)}
    {storageState : Bool} {inside : SessionV1 → LocalProgram α}
    (stays : ∀ session, scope.Drives session → Stays contract ghost errors (inside session)) :
    Stays contract ghost errors (openSession platform identity ready storageState >>= inside) :=
  openSession_bind admits uses (fun _ expected => ⟨rfl, expected⟩) stays

variable {call : StrategyCallV1} {strategy : LocalStrategyV1}

/-- A main request from Node that brings no response fails with an expected error, when Node's
transport fails with expected ones. -/
theorem mainFetchEnd_errors (admits : AdmitsScope contract ghost scope errors) {method url : Units}
    (signals : ∀ cause message dispatches signal, fetch = .failed cause message dispatches → classifyFetchThrow cause = some signal → errors (.transportFailure signal))
    (failed : mainFetchEnd code method url fetch = .error error) : errors error := by
  cases fetch with
  | response response => nomatch failed
  | timedOut =>
    cases failed
    exact admits.mapped method url (admits.own _ nofun)
  | scheduler found dispatches =>
    simp only [mainFetchEnd] at failed
    split at failed
    · cases failed
      exact admits.unknown method url
    · cases failed
      exact admits.own _ nofun
  | failed cause message dispatches =>
    simp only [mainFetchEnd] at failed
    split at failed
    · cases failed
      exact admits.unknown method url
    · split at failed
      · next signal classified =>
        cases failed
        exact signals cause message dispatches signal rfl classified
      · nomatch failed

theorem readMainResponse_stays (admits : AdmitsScope contract ghost scope errors)
    (role : scope.role call.role) {withoutPersistedCookies : Bool}
    (jar : withoutPersistedCookies = false → scope.Uses call.platform call.identity)
    (url : Units) (response : NodeFetchedV1) :
    Stays contract ghost errors
      (readMainResponse code strategy call url withoutPersistedCookies response) := by
  refine .bind (.whenever fun kept => admits.performs (jar kept.1)) fun _ =>
    .bind (admits.performs role) ?_
  intro answer
  cases answer with
  | timedOut => exact .throw (admits.own _ nofun)
  | failed message => exact .pure _
  | text text =>
    dsimp only
    split
    · exact .pure _
    · exact .pure _

theorem fireRequestFromNode_stays (admits : AdmitsScope contract ghost scope errors)
    (role : scope.role call.role) {withoutPersistedCookies : Bool}
    (jar : withoutPersistedCookies = false → scope.Uses call.platform call.identity)
    (args : CallArgs) :
    Stays contract ghost errors
      (fireRequestFromNode code strategy args call withoutPersistedCookies) := by
  refine .bind (admits.resolves _) fun prepared => .bind (.orElse fun kept =>
    admits.performs (jar kept)) fun cookies => .bind (admits.resolves _) fun headers =>
      .performing (admits.allowed _ role) ?_
  intro fetched relied
  cases fetched with
  | response response =>
    exact .tryFinally (.tryCatch (readMainResponse_stays admits role jar _ response)
      fun _ expected => .throw (admits.mapped _ _ expected)) (admits.attempts trivial)
  | timedOut => exact .ofExcept fun error => mainFetchEnd_errors admits nofun
  | scheduler found dispatches => exact .ofExcept fun error => mainFetchEnd_errors admits nofun
  | failed cause message dispatches =>
    refine .ofExcept fun error => mainFetchEnd_errors admits ?_
    intro cause message dispatches signal same classified
    cases same
    exact admits.signals _ _ _ _ _ _ _ relied classified

theorem executeFetchNode_stays (admits : AdmitsScope contract ghost scope errors)
    (tokens : call.hasTokenCache = true → scope.tokens) (prerequisite : scope.role .prerequisite)
    (role : scope.role call.role) {withoutPersistedCookies : Bool}
    (fetches : ∀ prereq ∈ strategy.prerequisites, prereq.isFetched → scope.Uses call.platform call.identity)
    (resolves : ∀ prereq ∈ strategy.prerequisites, prereq.isOnCapability → ∀ bound, Stays contract ghost errors (resolve prereq bound))
    (jar : strategy.responseFrom = none → withoutPersistedCookies = false → scope.Uses call.platform call.identity) :
    Stays contract ghost errors
      (executeFetchNode code strategy call resolve withoutPersistedCookies) := by
  refine .bind (resolveNodeCompatiblePrereqs_stays admits tokens prerequisite fetches resolves [])
    fun bound => .ite (fun _ => .pure _) fun own => .bind (admits.resolves _) fun generated => ?_
  have none : strategy.responseFrom = none := by simpa using own
  cases generated with
  | inl needed => exact .pure _
  | inr args => exact fireRequestFromNode_stays admits role (jar none) args

theorem settleBrowserFetch_stays (admits : AdmitsScope contract ghost scope errors)
    (request : OutgoingRequestV1) (result : BrowserFetchV1) :
    Stays contract ghost errors (settleBrowserFetch code request result) := by
  cases result with
  | response status body finalUrl => exact .bind (admits.attempts trivial) fun _ => .pure _
  | failed error notSent timedOut =>
    exact .bind (admits.attempts trivial) fun _ => .ite (fun _ => .throw (admits.unknown _ _))
      fun _ => .ite (fun _ => .throw (admits.own _ nofun)) fun _ => .pure _

variable {session : SessionV1}

variable {role : RequestRoleV1}

theorem fetchInBrowserWithOriginAdmission_stays (admits : AdmitsScope contract ghost scope errors)
    (drives : scope.Drives session) (sends : scope.role role) (workload : Units)
    (request : OutgoingRequestV1) :
    Stays contract ghost errors
      (fetchInBrowserWithOriginAdmission code session workload role request) := by
  refine .bind (admits.attempts trivial) fun _ => .bind ?_ fun result => ?_
  · refine .tryCatch (admits.attempts ⟨drives, sends⟩) fun error expected => ?_
    exact .bind (admits.attempts trivial) fun _ => .throw (admits.mapped _ _ expected)
  · exact .tryCatch (settleBrowserFetch_stays admits request result)
      fun _ expected => .throw (admits.mapped _ _ expected)

theorem readPageResponse_stays (admits : AdmitsScope contract ghost scope errors)
    (drives : scope.Drives session) (status : Nat) (found : JsValue) (finalUrl : Units) :
    Stays contract ghost errors
      (readPageResponse code strategy session status found finalUrl) := by
  unfold readPageResponse
  dsimp only
  split
  · exact .pure _
  · refine .ite (fun _ => .pure _) fun _ => ?_
    split
    · refine .ite (fun _ => ?_) fun _ => .pure _
      exact .tryCatch (.bind (admits.attempts drives) fun tree => .pure _) fun _ _ => .pure _
    · exact .pure _

theorem fireRequestInSession_stays (admits : AdmitsScope contract ghost scope errors)
    (drives : scope.Drives session) (role : scope.role call.role)
    (default : scope.Uses call.platform none) (args : CallArgs) (navigateTo : Option Units) :
    Stays contract ghost errors
      (fireRequestInSession code session strategy args call navigateTo) := by
  have navigates : Stays contract ghost errors (navigateWhere session navigateTo) := by
    unfold navigateWhere
    split
    · exact admits.attempts drives
    · exact .pure _
  refine .bind (admits.resolves _) fun prepared => .bind (admits.resolves _) fun headers =>
    .bind navigates fun _ => .bind (fetchInBrowserWithOriginAdmission_stays admits drives role _ _)
      fun fetched => ?_
  -- Here the cookies are persisted in the jar of the default account.
  refine .bind (admits.attempts default) fun _ => .bind (admits.attempts ⟨drives, default⟩)
    fun _ => ?_
  cases fetched with
  | failed error notSent timedOut => exact .pure _
  | response status body finalUrl => exact readPageResponse_stays admits drives status body finalUrl

theorem runInSession_stays (admits : AdmitsScope contract ghost scope errors)
    (tokens : call.hasTokenCache = true → scope.tokens) (drives : scope.Drives session)
    (role : scope.role call.role) (default : scope.Uses call.platform none)
    (browserPrereqs : List StrategyPrereqV1) (scanned : OrderedMap Units JsValue) :
    Stays contract ghost errors
      (runInSession code strategy call session browserPrereqs scanned) := by
  refine .bind (runBrowserPrereqs_stays admits tokens drives browserPrereqs scanned)
    fun bound => .ite (fun _ => .pure _) fun _ => .bind (admits.attempts drives)
      fun interrupted => .bind (admits.resolves _) fun generated => ?_
  cases generated with
  | inl needed => exact .pure _
  | inr args =>
    refine .bind (admits.performs drives) fun currentUrl => .ite (fun _ => ?_) fun _ => ?_
    · exact fireRequestInSession_stays admits drives role default args none
    · exact .bind (admits.resolves _) fun url =>
        fireRequestInSession_stays admits drives role default args (some url)

theorem executeFetchInBrowser_stays (admits : AdmitsScope contract ghost scope errors)
    (tokens : call.hasTokenCache = true → scope.tokens) (role : scope.role call.role)
    (uses : scope.Uses call.platform call.identity) (default : scope.Uses call.platform none)
    (below : StaysBelow contract ghost errors scope execute false)
    (platforms : ∀ prereq ∈ strategy.prerequisites, ∀ target, prereq.platform = some target →
      scope.platform target) :
    Stays contract ghost errors (executeFetchInBrowser code execute strategy call) := by
  refine .bind (scanCachedPrereqs_stays admits tokens ?_ []) fun scanned =>
    .bind (admits.performs uses) fun storageState => Stays.openSession admits uses ?_
  · intro prereq member _ bound
    exact resolveCapabilityPrereq_stays admits (fun _ => default.1) default.2.1 default.2.2 below
      (platforms prereq member) _ _ _
  · intro session drives
    exact .tryFinally (runInSession_stays admits tokens drives role default _ _)
      (admits.attempts drives)

variable {socket : WebSocketPartV1}

theorem navigateForSocket_stays (admits : AdmitsScope contract ghost scope errors)
    (drives : scope.Drives session) (args : CallArgs) :
    Stays contract ghost errors (navigateForSocket code strategy socket session args) := by
  refine .ite (fun _ => .pure _) fun _ => .ite (fun _ => .pure _) fun _ =>
    .bind (admits.resolves _) fun url => ?_
  exact .tryCatch (.bind (admits.attempts drives) fun _ => .pure _) fun _ _ => .pure _

theorem openSocket_stays (admits : AdmitsScope contract ghost scope errors)
    (drives : scope.Drives session) (url : Units) (args : CallArgs) :
    Stays contract ghost errors (openSocket socket session url args) := by
  refine .bind (admits.performs drives) fun opened => .ite (fun _ => .pure _) fun _ =>
    .ite (fun _ => .bind (.tryCatch (.bind (admits.attempts drives) fun _ => .pure _) ?_) ?_)
      fun _ => .pure _
  · intro error expected
    split
    · exact .throw expected
    · exact .pure _
  · intro failed
    cases failed with
    | some result => exact .pure _
    | none => exact .bind (admits.performs drives) fun _ => .pure _

theorem sendFrameInSession_stays (admits : AdmitsScope contract ghost scope errors)
    (drives : scope.Drives session) (sends : scope.role role) (url frame : Units) :
    Stays contract ghost errors (sendFrameInSession socket session role url frame) := by
  refine .bind (admits.attempts ⟨drives, sends⟩) fun failed => ?_
  cases failed with
  | some error => exact .pure _
  | none =>
    dsimp only
    split
    · exact .pure _
    · refine .bind (admits.attempts drives) fun ack => ?_
      cases ack with
      | none => exact .pure _
      | some payload => exact .pure _

theorem runSocketInSession_stays (admits : AdmitsScope contract ghost scope errors)
    (tokens : call.hasTokenCache = true → scope.tokens) (drives : scope.Drives session)
    (role : scope.role call.role)
    (resolves : ∀ prereq ∈ strategy.prerequisites, prereq.isOnCapability →
      ∀ bound, Stays contract ghost errors (resolveCapabilityPrereq code execute prereq
        call.platform call.args bound call.depth none false)) :
    Stays contract ghost errors
      (runSocketInSession code execute strategy socket call session) := by
  refine .bind (scanCachedPrereqs_stays admits tokens resolves []) fun scanned =>
    .bind (runBrowserPrereqs_stays admits tokens drives _ _) fun bound =>
      .bind (navigateForSocket_stays admits drives _) fun missed => ?_
  cases missed with
  | some result => exact .pure _
  | none =>
    refine .bind (admits.resolves _) fun url => .bind (openSocket_stays admits drives url _)
      fun unopened => ?_
    cases unopened with
    | some result => exact .pure _
    | none =>
      refine .bind (.ite (fun _ => .bind (admits.attempts drives) fun frame => .pure _)
        fun _ => admits.resolves _) fun frame => ?_
      cases frame with
      | inl needed => exact .pure _
      | inr frame => exact sendFrameInSession_stays admits drives role url frame

theorem executeWebSocketBrowser_stays (admits : AdmitsScope contract ghost scope errors)
    (tokens : call.hasTokenCache = true → scope.tokens) (role : scope.role call.role)
    (uses : scope.Uses call.platform call.identity)
    (resolves : ∀ prereq ∈ strategy.prerequisites, prereq.isOnCapability →
      ∀ bound, Stays contract ghost errors (resolveCapabilityPrereq code execute prereq
        call.platform call.args bound call.depth none false)) :
    Stays contract ghost errors (executeWebSocketBrowser code execute strategy socket call) := by
  refine .bind (admits.performs uses) fun storageState => .bind (.orElse fun _ => admits.resolves _)
    fun ready => Stays.openSession admits uses fun session drives => ?_
  exact .tryFinally (runSocketInSession_stays admits tokens drives role resolves)
    (admits.attempts drives)

/-- Executing a strategy over a web socket from Node stays in the scope, and where it fails with what
is not expected, its transport does. -/
theorem executeWebSocketNode_stays (admits : AdmitsScope contract ghost scope errors)
    (tokens : call.hasTokenCache = true → scope.tokens) (prerequisite : scope.role .prerequisite)
    (role : scope.role call.role)
    (fetches : ∀ prereq ∈ strategy.prerequisites, prereq.isFetched →
      scope.Uses call.platform none)
    (resolves : ∀ prereq ∈ strategy.prerequisites, prereq.isOnCapability →
      ∀ bound, Stays contract ghost errors (resolveCapabilityPrereq code execute prereq
        call.platform call.args bound call.depth call.identity false)) :
    Stays contract ghost (fun error => errors error ∨ scope.socketFails)
      (executeWebSocketNode code execute strategy socket call) := by
  have resolved : Stays contract ghost errors (resolveNodeCompatiblePrereqs code call.hasTokenCache
      (fun prereq tokens => resolveCapabilityPrereq code execute prereq call.platform call.args
        tokens call.depth call.identity false)
      call.args call.platform call.capability none strategy.prerequisites []) :=
    resolveNodeCompatiblePrereqs_stays admits tokens prerequisite fetches resolves []
  have permit {op : RiskyOpV1} (inScope : op.Within scope) :
      Stays contract ghost (fun error => errors error ∨ scope.socketFails) (attempts op) :=
    (admits.attempts inScope).weaken fun _ => .inl
  refine .bind (resolved.weaken fun _ => .inl) fun bound =>
    .ite (fun _ => .throw (.inl (admits.own _ nofun))) fun _ =>
      .bind ((admits.resolves _).weaken fun _ => .inl) fun frame => ?_
  cases frame with
  | inl needed => exact .pure _
  | inr frame =>
    refine .bind ((admits.resolves _).weaken fun _ => .inl) fun url =>
      .bind ((admits.resolves _).weaken fun _ => .inl) fun headers =>
        .bind (permit trivial) fun _ =>
          .performing (admits.allowed _ role) fun sent relied => ?_
    cases sent with
    | sent ack =>
      exact .bind (permit trivial) fun _ => .pure _
    | failed failure sent error =>
      refine .bind (permit trivial) fun _ =>
        .ite (fun _ => .pure _) fun unsent => .ite (fun broken => .throw (.inr ?_)) fun _ => .pure _
      have notSent : sent = false := by simpa using unsent
      subst notSent
      exact admits.frames _ _ _ _ _ _ _ relied broken

theorem recordNodeTransportFailures_stays (admits : AdmitsScope contract ghost scope errors)
    (persists : scope.persists) (protocol : WireProtocolV1) (signal : Units) :
    Stays contract ghost errors
      (recordNodeTransportFailures platform capability protocol signal) := by
  refine .bind (admits.performs persists) fun count => .whenever fun _ => ?_
  exact .tryCatch (admits.attempts persists) fun _ _ => .pure _

theorem runPrerequisites_stays (admits : AdmitsScope contract ghost scope errors)
    (tokens : call.hasTokenCache = true → scope.tokens)
    (uses : scope.Uses call.platform call.identity)
    (resolves : ∀ prereq ∈ strategy.prerequisites, prereq.isOnCapability →
      ∀ bound, Stays contract ghost errors (resolveCapabilityPrereq code execute prereq
        call.platform call.args bound 0 none false)) :
    Stays contract ghost errors (runPrerequisites code execute strategy call) := by
  refine .bind (scanCachedPrereqs_stays admits tokens resolves []) fun scanned =>
    .ite (fun _ => .pure _) fun _ => .bind (admits.performs uses) fun storageState =>
      Stays.openSession admits uses fun session drives => ?_
  exact .tryFinally (runBrowserPrereqs_stays admits tokens drives _ _) (admits.attempts drives)

theorem executeRecordedPath_stays (admits : AdmitsScope contract ghost scope errors)
    (tokens : call.hasTokenCache = true → scope.tokens) (steps : scope.steps call.role)
    (uses : scope.Uses call.platform call.identity)
    (resolves : ∀ prereq ∈ strategy.prerequisites, prereq.isOnCapability →
      ∀ bound, Stays contract ghost errors (resolveCapabilityPrereq code execute prereq
        call.platform call.args bound 0 none false)) :
    Stays contract ghost errors (executeRecordedPath code execute strategy call) := by
  refine .bind (runPrerequisites_stays admits tokens uses resolves) fun bound =>
    .bind (admits.performs uses) fun storageState =>
      Stays.openSession admits uses fun session drives => ?_
  exact admits.attempts ⟨drives, steps⟩

theorem replaySteps_stays (admits : AdmitsScope contract ghost scope errors)
    (drives : scope.Drives session) (runs : scope.steps role) (args : CallArgs)
    (steps : List (Option Units)) :
    Stays contract ghost errors (replaySteps session role args steps) := by
  induction steps with
  | nil => exact .pure _
  | cons step rest ih => exact .bind (admits.attempts ⟨drives, runs⟩) fun _ => ih

/-- What follows on a partial replay keeps the contract when it does without a session and with every
session that the scope allows. -/
theorem replayRecordedPathToAnchor_bind (admits : AdmitsScope contract ghost scope errors)
    (steps : scope.steps call.role) (uses : scope.Uses call.platform call.identity)
    {recorded : LocalStrategyV1} {anchor : Units} {inside : Option SessionV1 → LocalProgram α}
    (failed : ∀ error, errors error → onFailure error ghost)
    (missing : (inside none).Keeps contract onReturn onFailure ghost)
    (keeps : ∀ session, scope.Drives session → (inside (some session)).Keeps contract onReturn onFailure ghost) :
    (replayRecordedPathToAnchor recorded anchor call >>= inside).Keeps contract onReturn onFailure
      ghost := by
  unfold replayRecordedPathToAnchor
  split
  · exact missing
  · next index found =>
    -- The sequence is taken apart up to the session that is left open.
    have loaded : Stays contract ghost errors
        (performs (.loadStorageStatePath call.platform call.identity)) := admits.performs uses
    rw [keeps_bind, keeps_bind]
    refine loaded.keeps (fun storageState => ?_) failed
    refine openSession_bind admits uses failed fun session drives => ?_
    have ended : Stays contract ghost errors (performs (.endDriveQuietly session)) :=
      admits.performs drives
    rw [keeps_tryCatch, keeps_bind]
    refine (replaySteps_stays admits drives steps call.args _).keeps (fun _ => ?_) fun error _ => ?_
    · rw [keeps_bind]
      have saved : Stays contract ghost errors (tryCatch
          (attempts (.driverSaveStorageState session call.platform call.identity))
          fun _ => (pure () : LocalProgram Unit)) :=
        .tryCatch (admits.attempts ⟨drives, uses⟩) fun _ _ => .pure _
      refine saved.keeps (fun _ => keeps session drives) fun error expected => ?_
      rw [keeps_bind]
      exact ended.keeps (fun _ => missing) failed
    · rw [keeps_bind]
      exact ended.keeps (fun _ => missing) failed

variable {hasPool suppressStrategyState withoutPersistedCookies : Bool}

/-- The strategies over a web socket that fit a scope stay in it. -/
theorem dispatchWebSocket_stays (admits : AdmitsScope contract ghost scope errors)
    (fits : strategy.Fits scope hasPool suppressStrategyState withoutPersistedCookies)
    (overSocket : strategy.websocket = some socket)
    (tokens : call.hasTokenCache = true → scope.tokens) (prerequisite : scope.role .prerequisite)
    (role : scope.role call.role) (onPlatform : scope.platform call.platform)
    (forAccount : scope.account call.identity)
    (below : scope.persists → StaysBelow contract ghost errors scope execute false) :
    Stays contract ghost errors
      (dispatchWebSocket code execute strategy socket call hasPool suppressStrategyState) := by
  have isOver : strategy.websocket.isSome = true := by rw [overSocket]; rfl
  have inPage (pool : hasPool = true) (due : strategy.tier ≠ .fetch ∨
      strategy.websocket.isSome = true ∧ (scope.httpFails ∨ scope.socketFails)) :
      Stays contract ghost errors (executeWebSocketBrowser code execute strategy socket call) := by
    obtain ⟨persists, default⟩ := fits.sessions pool due
    refine executeWebSocketBrowser_stays admits tokens role ⟨persists, onPlatform, forAccount⟩ ?_
    intro prereq member onCapability bound
    exact resolveCapabilityPrereq_stays admits (fun _ => persists) onPlatform
      (default prereq member onCapability) (below persists) (fits.platforms prereq member) _ _ _
  unfold dispatchWebSocket
  refine .ite (fun isFetch => ?_) fun notFetch =>
    .ite (fun pool => .bind (inPage pool (.inl notFetch)) fun _ => .pure _) fun _ => .pure _
  have fromNode : Stays contract ghost (fun error => errors error ∨ scope.socketFails)
      (executeWebSocketNode code execute strategy socket call) := by
    refine executeWebSocketNode_stays admits tokens prerequisite role ?_ ?_
    · intro prereq member isFetched
      obtain ⟨persists, default⟩ := fits.fetched isFetch prereq member isFetched
      exact ⟨persists, onPlatform, default isOver⟩
    · intro prereq member onCapability bound
      have persists := fits.capabilities isFetch prereq member onCapability (.inr isOver)
      exact resolveCapabilityPrereq_stays admits (fun _ => persists) onPlatform forAccount
        (below persists) (fits.platforms prereq member) _ _ _
  unfold Stays
  rw [keeps_bind]
  -- The page is needed only where the transport failed.
  refine Keeps.mono (show Interaction.Keeps contract _ (fun attempt after => after = ghost ∧
      ∀ signal, attempt = .inr signal → scope.httpFails ∨ scope.socketFails)
      (fun error after => after = ghost ∧ errors error) ghost from ?_) ?_ fun _ _ same => same
  · rw [keeps_tryCatch, keeps_bind]
    refine fromNode.keeps (fun result => ⟨rfl, by rintro _ ⟨⟩⟩) fun error expected => ?_
    cases error with
    | transportFailure signal => exact ⟨rfl, fun _ _ => expected.imp (admits.failures signal) id⟩
    | state | requestTimeout | scheduler | prereq | other =>
      exact ⟨rfl, admits.own _ (by rintro _ ⟨⟩)⟩
  rintro attempt after ⟨same, failed⟩
  subst same
  cases attempt with
  | inl result => rfl
  | inr signal =>
    have due := failed signal rfl
    show Stays contract after errors _
    refine .ite (fun pool => .bind (.whenever fun _ => ?_) fun _ =>
      .bind (inPage pool (.inr ⟨isOver, due⟩)) fun _ => .pure _) fun _ => .pure _
    exact recordNodeTransportFailures_stays admits
      (fits.sessions pool (.inr ⟨isOver, due⟩)).1 _ _

end

end Klura
