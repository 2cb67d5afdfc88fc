import Klura.Execution.Runtime
import Klura.Invariants.CascadeOperations

/-! What follows within one execution on a write that was delivered, or may have been. -/

namespace Klura

open Interaction

/-- How the writes of an execution stand: nothing was delivered, something was, or a write was sent
and nothing came back. -/
inductive DeliveryV1 where
  | undelivered
  | delivered
  | unanswered
  deriving DecidableEq

/-- Whether a request is a main request of the execution itself, not of one below it. -/
def RequestRoleV1.isTop : RequestRoleV1 → Bool
  | .main depth | .retry depth => depth == 0
  | .prerequisite => false

/-- Whether a request is a main request again, behind a partial replay. -/
def RequestRoleV1.isRetry : RequestRoleV1 → Bool
  | .retry _ => true
  | _ => false

/-- What is sent for a role, if an operation sends something or runs recorded steps. -/
def LocalOpV1.role : LocalOpV1 → Option RequestRoleV1
  | .sure (.sendNodeRequest role ..) | .sure (.readBody role _)
  | .sure (.sendNodeWebSocketFrame role ..) | .risky (.fetchInBrowser role ..)
  | .risky (.sendWebSocketFrame role ..) | .risky (.executeSteps role ..)
  | .risky (.replayStep role ..) => some role
  | _ => none

/-- Whether an operation only reads what came back. -/
def LocalOpV1.readsBack : LocalOpV1 → Bool
  | .sure (.readBody ..) => true
  | _ => false

/-- What a response with a status says of a write. -/
def deliveryOfStatus (status : Nat) : DeliveryV1 :=
  if 200 ≤ status ∧ status < 300 then .delivered else .undelivered

/-- What a request from Node comes to for a write. -/
def deliveryOfNode : NodeFetchV1 → DeliveryV1
  | .response response => deliveryOfStatus response.status
  | .timedOut => .unanswered
  | .scheduler _ dispatches | .failed _ _ dispatches =>
    if dispatches = 0 then .undelivered else .unanswered

/-- What a request from the page comes to for a write; where it throws, it may have been sent. -/
def deliveryOfPage : Except LocalErrorV1 BrowserFetchV1 → DeliveryV1
  | .ok (.response status ..) => deliveryOfStatus status
  | .ok (.failed _ notSent _) => if notSent then .undelivered else .unanswered
  | .error _ => .unanswered

/-- What sending a frame from Node comes to. -/
def deliveryOfNodeFrame : NodeFrameV1 → DeliveryV1
  | .sent _ => .delivered
  | .failed _ sent _ => if sent then .unanswered else .undelivered

/-- What sending a frame from the page comes to: one that expects no answer is delivered once it is
handed over. -/
def deliveryOfFrame (ackMatch : Option Units) : Except LocalErrorV1 (Option Units) → DeliveryV1
  | .ok none => if ackMatch.isSome then .unanswered else .delivered
  | .ok (some _) | .error _ => .unanswered

/-- How the writes stand behind the answer that a frame awaits. -/
def deliveryOfAck (before : DeliveryV1) : Except LocalErrorV1 (Option Units) → DeliveryV1
  | .ok (some _) => if before = .unanswered then .delivered else before
  | _ => before

/-- How the writes stand behind an operation. -/
def deliveryAfter (code : LocalCodeV1) (before : DeliveryV1) :
    (op : LocalOpV1) → op.Answer → DeliveryV1
  | .sure (.sendNodeRequest role _ request), answer =>
    if role.isTop && httpMethodMayMutate code request.method then deliveryOfNode answer else before
  | .sure (.sendNodeWebSocketFrame role ..), answer =>
    if role.isTop then deliveryOfNodeFrame answer else before
  | .risky (.fetchInBrowser role _ request), answer =>
    if role.isTop && httpMethodMayMutate code request.method then deliveryOfPage answer else before
  | .risky (.sendWebSocketFrame role _ _ _ ackMatch), answer =>
    if role.isTop then deliveryOfFrame ackMatch answer else before
  | .risky (.waitForAck ..), answer => deliveryOfAck before answer
  | _, _ => before

/-- An answer is one that the execution recovers from: it is no error, or one of reading a page, or
the deadline of a first main request. -/
def Recovers : (op : LocalOpV1) → op.Answer → Prop
  | .risky (.htmlToAriaLikeTree ..), _ => True
  | .risky (.fetchInBrowser role ..), answer =>
    ∀ error, answer = .error error → error = .requestTimeout ∧ role.isRetry = false
  | .risky _, answer => ∀ error, answer ≠ .error error
  | _, _ => True

/-- The deadline did not pass while a body was read. -/
def BodyArrives : (op : LocalOpV1) → op.Answer → Prop
  | .sure (.readBody ..), answer => answer ≠ BodyReadV1.timedOut
  | _, _ => True

/-- No write is repeated: nothing more is sent once one was delivered or may have been. What is relied
on is that then nothing throws, and that a request behind a partial replay is answered. -/
def writesOnce (code : LocalCodeV1) : Contract localInterface DeliveryV1 where
  rely before op answer :=
    let after := deliveryAfter code before op answer
    (after ≠ .undelivered → Recovers op answer) ∧
      (op.role.any RequestRoleV1.isRetry = true →
        after ≠ .unanswered ∧ (after = .delivered → BodyArrives op answer))
  guard before op :=
    op.role.any RequestRoleV1.isTop = true → op.readsBack = false → before = .undelivered
  after := deliveryAfter code

/-- The scope of what is executed below an execution, and of all that sends no main request of its
own. -/
def belowScope : ExecutionScope where
  platform _ := True
  account _ := True
  role role := role.isTop = false
  steps _ := True
  persists := True
  tokens := True
  httpFails := True
  socketFails := True

theorem deliveryOfAck_undelivered (answer : Except LocalErrorV1 (Option Units)) :
    deliveryOfAck .undelivered answer = .undelivered := by
  unfold deliveryOfAck
  split
  · exact if_neg nofun
  · rfl

theorem deliveryAfter_below {code : LocalCodeV1} {op : LocalOpV1} (within : op.Within belowScope)
    (answer : op.Answer) : deliveryAfter code .undelivered op answer = .undelivered := by
  cases op with
  | sure op =>
    cases op with
    | sendNodeRequest role workload request =>
      have notTop : role.isTop = false := within
      simp only [deliveryAfter, notTop, Bool.false_and, Bool.false_eq_true, if_false]
    | sendNodeWebSocketFrame role url headers frame ackMatch =>
      have notTop : role.isTop = false := within
      simp only [deliveryAfter, notTop, Bool.false_eq_true, if_false]
    | _ => rfl
  | risky op =>
    cases op with
    | fetchInBrowser role session request =>
      have notTop : role.isTop = false := within.2
      simp only [deliveryAfter, notTop, Bool.false_and, Bool.false_eq_true, if_false]
    | sendWebSocketFrame role session url frame ackMatch =>
      have notTop : role.isTop = false := within.2
      simp only [deliveryAfter, notTop, Bool.false_eq_true, if_false]
    | waitForAck => exact deliveryOfAck_undelivered answer
    | _ => rfl

theorem writesOnce_admits (code : LocalCodeV1) :
    AdmitsScope (writesOnce code) .undelivered belowScope fun _ => True where
  allowed _ within := ⟨fun _ _ => rfl, fun answer _ => deliveryAfter_below within answer⟩
  thrown _ _ _ := trivial
  own _ _ := trivial
  signals _ _ _ _ _ _ _ _ _ := trivial
  failures _ _ := trivial
  frames _ _ _ _ _ _ _ _ _ := trivial
  borrowed _ _ _ _ _ _ _ _ := trivial

variable {code : LocalCodeV1} {before : DeliveryV1} {role : RequestRoleV1}

/-- An operation that sends nothing itself, and moves nothing. -/
def LocalOpV1.IsSilent (code : LocalCodeV1) (op : LocalOpV1) : Prop :=
  (op.role.any RequestRoleV1.isTop = true → op.readsBack = true) ∧
    ∀ before answer, deliveryAfter code before op answer = before

variable {errors : LocalErrorV1 → Prop}

theorem silent_performs {op : SureOpV1} (silent : (LocalOpV1.sure op).IsSilent code) :
    Stays (writesOnce code) before errors (performs op) := by
  refine .perform ⟨fun isTop sends => ?_, fun answer _ => silent.2 before answer⟩
  rw [silent.1 isTop] at sends
  nomatch sends

theorem silent_attempts {op : RiskyOpV1} (silent : (LocalOpV1.risky op).IsSilent code)
    (fatal : ∀ error, Recovers (.risky op) (.error error) → False) :
    Stays (writesOnce code) before (fun _ => before = .undelivered) (attempts op) := by
  have allowed : (writesOnce code).Allows before (.risky op) := by
    refine ⟨fun isTop sends => ?_, fun answer _ => silent.2 before answer⟩
    rw [silent.1 isTop] at sends
    nomatch sends
  refine .performing allowed fun answer relied => .ofExcept fun error failed => ?_
  by_contra moved
  subst failed
  refine fatal error (relied.1 ?_)
  rw [silent.2]
  exact moved

theorem silent_tries {op : RiskyOpV1} (silent : (LocalOpV1.risky op).IsSilent code) :
    Stays (writesOnce code) before (fun _ => True) (attempts op) := by
  refine .performing ⟨fun isTop sends => ?_, fun answer _ => silent.2 before answer⟩ fun _ _ =>
    .ofExcept fun _ _ => trivial
  rw [silent.1 isTop] at sends
  nomatch sends

/-- The result of a main request says how the writes stand: behind a write the cascade does not go
on, and one that is unanswered is reported so. -/
def Settled (result : LocalResultV1) : DeliveryV1 → Prop
  | .undelivered => True
  | .delivered => needsReauth result = false ∧
      classifyFactoryExecutionResult result.toExecuteResultV1 ≠ .transportFailure
  | .unanswered => needsReauth result = false ∧ result.executionState = some .sentUnconfirmed

/-- An error of a main request behind a write says that its delivery is not confirmed; behind a
partial replay there is none. -/
def SettledError (role : RequestRoleV1) (error : LocalErrorV1) (after : DeliveryV1) : Prop :=
  after = .undelivered ∨ role.isRetry = false ∧
    ∃ code details, error = .state .sentUnconfirmed code details

theorem silent_of_noRole {op : LocalOpV1} (noRole : op.role = none)
    (still : ∀ before answer, deliveryAfter code before op answer = before) : op.IsSilent code := by
  refine ⟨fun isTop => ?_, still⟩
  rw [noRole] at isTop
  nomatch isTop

variable {result : LocalResultV1}

theorem settled_of_status {status : Nat} (answered : result.status = some status)
    (stateless : result.executionState = none) :
    Settled result (deliveryOfStatus status) := by
  unfold deliveryOfStatus
  split
  · next succeeds =>
    constructor
    · unfold needsReauth
      rw [answered]
      cases result.body with
      | object fields =>
        have refused : decide (400 ≤ status) = false := decide_eq_false (by omega)
        simp only [refused, Bool.false_and]
      | _ => rfl
    · unfold classifyFactoryExecutionResult
      rw [stateless, answered]
      have inside : ¬(status < 200 ∨ 300 ≤ status) := by omega
      simp only [inside, if_false]
      split
      · nofun
      · nofun
      · split <;> nofun
  · trivial

theorem settled_unconfirmed (unanswered : result.status = some 0)
    (reported : result.executionState = some .sentUnconfirmed) (after : DeliveryV1) :
    Settled result after := by
  have signedIn : needsReauth result = false := by
    unfold needsReauth
    rw [unanswered]
    cases result.body with
    | object fields => rfl
    | _ => rfl
  cases after with
  | undelivered => trivial
  | delivered =>
    refine ⟨signedIn, ?_⟩
    unfold classifyFactoryExecutionResult
    rw [reported]
    nofun
  | unanswered => exact ⟨signedIn, reported⟩

variable {after : DeliveryV1}

variable {method url : Units} {error : LocalErrorV1}

theorem settledError_mapped {role : RequestRoleV1}
    (first : after ≠ .undelivered → role.isRetry = false)
    (mutates : after ≠ .undelivered → httpMethodMayMutate code method = true)
    (timed : after ≠ .undelivered → error = .requestTimeout ∨ ∃ code details, error = .state .sentUnconfirmed code details) :
    SettledError role (mapDispatchedHttpTimeout code method url error) after := by
  by_cases unmoved : after = .undelivered
  · exact .inl unmoved
  · refine .inr ⟨first unmoved, ?_⟩
    rcases timed unmoved with same | ⟨found, details, same⟩
    · subst same
      unfold mapDispatchedHttpTimeout
      rw [if_pos (mutates unmoved)]
      exact ⟨_, _, rfl⟩
    · subst same
      exact ⟨found, details, rfl⟩

theorem releasePermit_silent (completion : SchedulerCompletionV1) :
    Stays (writesOnce code) before (fun _ => before = .undelivered)
      (attempts (.releasePermit completion)) :=
  silent_attempts (silent_of_noRole rfl fun _ _ => rfl) fun error recovers => recovers error rfl

variable {withoutPersistedCookies : Bool}

variable {response : NodeFetchedV1}

/-- Reading the response to a main request reports its status, or the deadline of a first one. -/
theorem readMainResponse_settles {strategy : LocalStrategyV1} {call : StrategyCallV1}
    (settled : before = .undelivered ∨ before = deliveryOfStatus response.status) :
    (readMainResponse code strategy call url withoutPersistedCookies response).Keeps
      (writesOnce code) (fun result after => after = before ∧ Settled result before)
      (fun error after => after = before ∧ error = .requestTimeout ∧
        (before ≠ .undelivered → call.role.isRetry = false)) before := by
  have plain {result : LocalResultV1} (answered : result.status = some response.status)
      (stateless : result.executionState = none) : Settled result before := by
    rcases settled with same | same
    · subst same
      trivial
    · subst same
      exact settled_of_status answered stateless
  have persists : Stays (writesOnce code) before (fun _ => False)
      (whenever (withoutPersistedCookies = false ∧ response.setCookies ≠ []) (performs
        (.writeStorageStateCookies call.platform call.identity response.setCookies url))) :=
    .whenever fun _ => silent_performs (silent_of_noRole rfl fun _ _ => rfl)
  unfold readMainResponse
  rw [keeps_bind]
  refine persists.keeps (fun _ => ?_) fun _ never => never.elim
  unfold performs
  rw [keeps_bind, keeps_perform]
  refine ⟨fun _ sends => Bool.noConfusion sends, fun answer relied => ?_⟩
  cases answer with
  | timedOut =>
    refine ⟨rfl, rfl, fun moved => ?_⟩
    by_contra isRetry
    have again := relied.2 (by simpa [LocalOpV1.role] using isRetry)
    -- What is delivered is so by this response, whose body arrives.
    have delivered : before = .delivered := by
      rcases settled with same | same
      · exact absurd same moved
      · rw [same] at moved ⊢
        unfold deliveryOfStatus at moved ⊢
        split at moved
        · next succeeds => rw [if_pos succeeds]
        · exact absurd rfl moved
    exact again.2 delivered rfl
  | failed message => exact ⟨rfl, plain rfl rfl⟩
  | text text =>
    dsimp only
    split
    · exact ⟨rfl, plain rfl rfl⟩
    · exact ⟨rfl, plain rfl rfl⟩

/-- A response to a main request from Node is settled by its status, and so is a permit given back
behind it. -/
theorem nodeResponse_settles {strategy : LocalStrategyV1} {call : StrategyCallV1}
    (settled : before = .undelivered ∨ before = deliveryOfStatus response.status ∧ httpMethodMayMutate code method = true) :
    (tryFinally
      (tryCatch (readMainResponse code strategy call url withoutPersistedCookies response)
        fun error => throw (mapDispatchedHttpTimeout code method url error))
      (attempts (.releasePermit (completionOf response.status)))).Keeps (writesOnce code) Settled
      (SettledError call.role) before := by
  rw [keeps_tryFinally, keeps_tryCatch]
  refine (readMainResponse_settles (settled.imp id And.left)).mono ?_ ?_
  · intro result after ⟨same, ended⟩
    subst same
    exact (releasePermit_silent _).keeps (fun _ => ended) fun _ unmoved => .inl unmoved
  · intro error after ⟨same, timed, first⟩
    subst same timed
    refine (releasePermit_silent _).keeps (fun _ => ?_) fun _ unmoved => .inl unmoved
    refine settledError_mapped first (fun moved => ?_) fun _ => .inl rfl
    exact (settled.resolve_left moved).2

variable {fetch : NodeFetchV1}

theorem missing_notDelivered (noResponse : ∀ response, fetch ≠ .response response) :
    deliveryOfNode fetch ≠ .delivered := by
  cases fetch with
  | response response => exact absurd rfl (noResponse response)
  | timedOut => nofun
  | scheduler found dispatches =>
    simp only [deliveryOfNode]
    split
    · decide
    · decide
  | failed cause message dispatches =>
    simp only [deliveryOfNode]
    split
    · decide
    · decide

/-- A main request from Node that brings no response is settled. -/
theorem mainFetchEnd_settles {role : RequestRoleV1}
    (missing : after = .undelivered ∨ after = deliveryOfNode fetch ∧ httpMethodMayMutate code method = true ∧ (after = .unanswered → role.isRetry = false))
    (noResponse : ∀ response, fetch ≠ .response response) :
    (Interaction.ofExcept (I := localInterface) (mainFetchEnd code method url fetch)).Keeps
      (writesOnce code) Settled (SettledError role) after := by
  rw [keeps_ofExcept]
  rcases missing with unmoved | ⟨same, mutates, first⟩
  · subst unmoved
    split
    · trivial
    · exact .inl rfl
  · have unknown : SettledError role (dispatchedHttpDeliveryUnknown code method url) after := by
      cases unmoved : after with
      | undelivered => exact .inl rfl
      | delivered =>
        rw [same] at unmoved
        exact absurd unmoved (missing_notDelivered noResponse)
      | unanswered => exact .inr ⟨first unmoved, _, _, rfl⟩
    cases fetch with
    | response response => exact absurd rfl (noResponse response)
    | timedOut =>
      simp only [mainFetchEnd, mapDispatchedHttpTimeout, mutates, if_true]
      exact unknown
    | scheduler found dispatches =>
      simp only [mainFetchEnd, mutates, true_and]
      by_cases sent : dispatches = 0
      · simp only [sent, ne_eq, not_true_eq_false, if_false]
        exact .inl (by rw [same, deliveryOfNode, if_pos sent])
      · simp only [ne_eq, sent, not_false_eq_true, if_true]
        exact unknown
    | failed cause message dispatches =>
      simp only [mainFetchEnd, mutates, if_true]
      exact unknown

variable {request : OutgoingRequestV1}

/-- A request from Node leaves the writes as they were, or it was a write of the execution itself, which
stands as its answer says. -/
theorem sendNodeRequest_stands {role : RequestRoleV1} {workload : Units} {answer : NodeFetchV1}
    (relied : (writesOnce code).rely .undelivered (.sure (.sendNodeRequest role workload request)) answer) :
    let after := deliveryAfter code .undelivered
      (.sure (.sendNodeRequest role workload request)) answer
    after = .undelivered ∨ after = deliveryOfNode answer ∧
      httpMethodMayMutate code request.method = true ∧
      (after = .unanswered → role.isRetry = false) := by
  intro after
  have first (unanswered : after = .unanswered) : role.isRetry = false := by
    by_contra isRetry
    exact (relied.2 (by simpa [LocalOpV1.role] using isRetry)).1 unanswered
  by_cases write : (role.isTop && httpMethodMayMutate code request.method) = true
  · refine .inr ⟨?_, (Bool.and_eq_true_iff.mp write).2, first⟩
    simp only [after, deliveryAfter, write, if_true]
  · left
    simp only [after, deliveryAfter, write, if_false, Bool.false_eq_true]

theorem fireRequestFromNode_settles (strategy : LocalStrategyV1) (args : CallArgs)
    (call : StrategyCallV1) (withoutPersistedCookies : Bool) :
    (fireRequestFromNode code strategy args call withoutPersistedCookies).Keeps (writesOnce code)
      Settled (SettledError call.role) .undelivered := by
  have admits := writesOnce_admits code
  have jar (url : Units) : Stays (writesOnce code) .undelivered (fun _ => True)
      (orElse (withoutPersistedCookies = false)
        (performs (.readStorageStateCookies call.platform call.identity url)) none) :=
    .orElse fun _ => admits.performs ⟨trivial, trivial, trivial⟩
  unfold fireRequestFromNode
  rw [keeps_bind]
  refine (admits.resolves _).keeps (fun prepared => ?_) fun _ _ => .inl rfl
  rw [keeps_bind]
  refine (jar _).keeps (fun cookies => ?_) fun _ _ => .inl rfl
  rw [keeps_bind]
  refine (admits.resolves _).keeps (fun headers => ?_) fun _ _ => .inl rfl
  dsimp only
  unfold performs
  rw [keeps_bind, keeps_perform]
  refine ⟨fun _ _ => rfl, fun answer relied => ?_⟩
  have stands := sendNodeRequest_stands relied
  -- The write stands as the answer says, when it is one of this execution.
  cases answer with
  | response response => exact nodeResponse_settles (stands.imp id fun ⟨same, mutates, _⟩ =>
      ⟨same, mutates⟩)
  | timedOut => exact mainFetchEnd_settles stands nofun
  | scheduler found dispatches => exact mainFetchEnd_settles stands nofun
  | failed cause message dispatches => exact mainFetchEnd_settles stands nofun

theorem executeFetchNode_settles {strategy : LocalStrategyV1} {call : StrategyCallV1}
    {resolve : CapabilityResolver}
    (resolves : ∀ prereq bound, Stays (writesOnce code) .undelivered (fun _ => True) (resolve prereq bound)) :
    (executeFetchNode code strategy call resolve withoutPersistedCookies).Keeps (writesOnce code)
      Settled (SettledError call.role) .undelivered := by
  have admits := writesOnce_admits code
  have resolved : Stays (writesOnce code) .undelivered (fun _ => True)
      (resolveNodeCompatiblePrereqs code call.hasTokenCache resolve call.args call.platform
        call.capability call.identity strategy.prerequisites []) :=
    resolveNodeCompatiblePrereqs_stays admits (fun _ => trivial) rfl
      (fun _ _ _ => ⟨trivial, trivial, trivial⟩) (fun prereq _ _ => resolves prereq) []
  unfold executeFetchNode
  rw [keeps_bind]
  refine resolved.keeps (fun tokens => ?_) fun _ _ => .inl rfl
  split
  · trivial
  · rw [keeps_bind]
    refine (admits.resolves _).keeps (fun generated => ?_) fun _ _ => .inl rfl
    cases generated with
    | inl needed => trivial
    | inr args => exact fireRequestFromNode_settles strategy args call withoutPersistedCookies

/-- How the writes stand behind what a page fetched. -/
def FetchedAs (fetched : BrowserFetchV1) (after : DeliveryV1) : Prop :=
  after = .undelivered ∨
    ∃ status body finalUrl, fetched = .response status body finalUrl ∧
      after = deliveryOfStatus status

variable {session : SessionV1}

/-- A request from a page leaves the writes as they were, or it was a write of the execution itself,
which stands as its answer says. -/
theorem fetchInBrowser_stands {role : RequestRoleV1} {answer : Except LocalErrorV1 BrowserFetchV1}
    (relied : (writesOnce code).rely .undelivered (.risky (.fetchInBrowser role session request)) answer) :
    let after := deliveryAfter code .undelivered
      (.risky (.fetchInBrowser role session request)) answer
    (after = .undelivered ∨ after = deliveryOfPage answer ∧
      httpMethodMayMutate code request.method = true) ∧
      (after = .unanswered → role.isRetry = false) ∧
      (after ≠ .undelivered → ∀ error, answer = .error error →
        error = .requestTimeout ∧ role.isRetry = false) := by
  intro after
  refine ⟨?_, fun unanswered => ?_, fun moved => relied.1 moved⟩
  · by_cases write : (role.isTop && httpMethodMayMutate code request.method) = true
    · refine .inr ⟨?_, (Bool.and_eq_true_iff.mp write).2⟩
      simp only [after, deliveryAfter, write, if_true]
    · left
      simp only [after, deliveryAfter, write, if_false, Bool.false_eq_true]
  · by_contra isRetry
    exact (relied.2 (by simpa [LocalOpV1.role] using isRetry)).1 unanswered

/-- Settling what a page fetched reports a write that is unanswered. -/
theorem settleBrowserFetch_settles {role : RequestRoleV1} {fetched : BrowserFetchV1}
    (stands : after = .undelivered ∨ after = deliveryOfPage (.ok fetched) ∧ httpMethodMayMutate code request.method = true)
    (first : after = .unanswered → role.isRetry = false) :
    (settleBrowserFetch code request fetched).Keeps (writesOnce code) FetchedAs
      (SettledError role) after := by
  cases fetched with
  | response status body finalUrl =>
    unfold settleBrowserFetch
    rw [keeps_bind]
    refine (releasePermit_silent _).keeps (fun _ => ?_) fun _ unmoved => .inl unmoved
    exact stands.imp id fun ⟨same, _⟩ => ⟨status, body, finalUrl, rfl, same⟩
  | failed error notSent timedOut =>
    -- What was not sent, or cannot write, was not delivered.
    have unmoved (harmless : ¬(httpMethodMayMutate code request.method = true ∧ notSent = false)) :
        after = .undelivered := by
      rcases stands with unmoved | ⟨same, mutates⟩
      · exact unmoved
      · have unsent : notSent = true := by simpa [mutates] using harmless
        rw [same, deliveryOfPage, unsent]
        rfl
    unfold settleBrowserFetch
    rw [keeps_bind]
    refine (releasePermit_silent _).keeps (fun _ => ?_) fun _ unmoved => .inl unmoved
    split
    · next unanswered =>
      rcases stands with unmoved | ⟨same, _⟩
      · exact .inl unmoved
      · refine .inr ⟨first ?_, _, _, rfl⟩
        rw [same, deliveryOfPage, unanswered.2]
        rfl
    · next harmless =>
      split
      · exact .inl (unmoved harmless)
      · exact .inl (unmoved harmless)

theorem SettledError.mapped {role : RequestRoleV1} (settled : SettledError role error after) :
    SettledError role (mapDispatchedHttpTimeout code method url error) after := by
  rcases settled with unmoved | ⟨first, found, details, same⟩
  · exact .inl unmoved
  · subst same
    exact .inr ⟨first, found, details, rfl⟩

/-- A request that is sent from a page reports how the writes stand. -/
theorem fetchInBrowserWithOriginAdmission_settles (session : SessionV1) (workload : Units)
    (role : RequestRoleV1) (request : OutgoingRequestV1) :
    (fetchInBrowserWithOriginAdmission code session workload role request).Keeps (writesOnce code)
      FetchedAs (SettledError role) .undelivered := by
  have admits := writesOnce_admits code
  have permitted : Stays (writesOnce code) .undelivered (fun _ => True)
      (attempts (.acquirePermit request.url workload)) := admits.attempts trivial
  unfold fetchInBrowserWithOriginAdmission
  rw [keeps_bind]
  refine permitted.keeps (fun _ => ?_) fun _ _ => .inl rfl
  dsimp only
  rw [keeps_bind, keeps_tryCatch]
  show (attempts (.fetchInBrowser role session request)).Keeps (writesOnce code) _ _ .undelivered
  unfold attempts
  rw [keeps_bind, keeps_perform]
  refine ⟨fun _ _ => rfl, fun answer relied => ?_⟩
  obtain ⟨stands, first, thrown⟩ := fetchInBrowser_stands relied
  rw [keeps_ofExcept]
  cases answer with
  | error error =>
    show ((attempts (.releasePermit .neutral) >>= fun _ =>
      throw (mapDispatchedHttpTimeout code request.method request.url error)) :
        LocalProgram BrowserFetchV1).Keeps (writesOnce code) _ _ _
    rw [keeps_bind]
    refine (releasePermit_silent .neutral).keeps (fun _ => ?_) fun _ unmoved => .inl unmoved
    refine settledError_mapped (fun moved => (thrown moved error rfl).2) (fun moved => ?_)
      fun moved => .inl (thrown moved error rfl).1
    exact (stands.resolve_left moved).2
  | ok fetched =>
    dsimp only
    rw [keeps_tryCatch]
    exact (settleBrowserFetch_settles stands first).mono (fun _ _ ended => ended)
      fun _ _ settled => settled.mapped

theorem readPageResponse_settles {strategy : LocalStrategyV1} {status : Nat} {found : JsValue}
    {finalUrl : Units} (settled : before = .undelivered ∨ before = deliveryOfStatus status) :
    (readPageResponse code strategy session status found finalUrl).Keeps (writesOnce code) Settled
      (SettledError role) before := by
  have plain {result : LocalResultV1} (answered : result.status = some status)
      (stateless : result.executionState = none) : Settled result before := by
    rcases settled with same | same
    · subst same
      trivial
    · subst same
      exact settled_of_status answered stateless
  have drawn (html : Units) : Stays (writesOnce code) before (fun _ => True)
      (attempts (.htmlToAriaLikeTree session html)) :=
    silent_tries (silent_of_noRole rfl fun _ _ => rfl)
  unfold readPageResponse
  dsimp only
  split
  · exact plain rfl rfl
  · split
    · exact plain rfl rfl
    · split
      · split
        · rw [keeps_tryCatch, keeps_bind]
          exact (drawn _).keeps (fun tree => plain rfl rfl) fun _ _ => plain rfl rfl
        · exact plain rfl rfl
      · exact plain rfl rfl

/-- The main request of an execution from the page of a session is settled. -/
theorem fireRequestInSession_settles (session : SessionV1) (strategy : LocalStrategyV1)
    (args : CallArgs) (call : StrategyCallV1) (navigateTo : Option Units) :
    (fireRequestInSession code session strategy args call navigateTo).Keeps (writesOnce code)
      Settled (SettledError call.role) .undelivered := by
  have admits := writesOnce_admits code
  have navigates : Stays (writesOnce code) .undelivered (fun _ => True)
      (navigateWhere session navigateTo) := by
    unfold navigateWhere
    split
    · exact admits.attempts ⟨trivial, trivial, trivial⟩
    · exact .pure _
  unfold fireRequestInSession
  rw [keeps_bind]
  refine (admits.resolves _).keeps (fun prepared => ?_) fun _ _ => .inl rfl
  rw [keeps_bind]
  refine (admits.resolves _).keeps (fun headers => ?_) fun _ _ => .inl rfl
  dsimp only
  rw [keeps_bind]
  refine navigates.keeps (fun _ => ?_) fun _ _ => .inl rfl
  rw [keeps_bind]
  refine (fetchInBrowserWithOriginAdmission_settles session _ call.role _).mono ?_
    fun _ _ settled => settled
  intro fetched after stands
  -- Saving the cookies moves nothing, and behind a write it does not throw.
  have saved : Stays (writesOnce code) after (fun _ => after = .undelivered)
      (attempts (.saveStorageState call.platform none)) :=
    silent_attempts (silent_of_noRole rfl fun _ _ => rfl) fun error recovers => recovers error rfl
  have driverSaved : Stays (writesOnce code) after (fun _ => after = .undelivered)
      (attempts (.driverSaveStorageState session call.platform none)) :=
    silent_attempts (silent_of_noRole rfl fun _ _ => rfl) fun error recovers => recovers error rfl
  rw [keeps_bind]
  refine saved.keeps (fun _ => ?_) fun _ unmoved => .inl unmoved
  rw [keeps_bind]
  refine driverSaved.keeps (fun _ => ?_) fun _ unmoved => .inl unmoved
  cases fetched with
  | failed error notSent timedOut =>
    have unmoved : after = .undelivered := by
      rcases stands with unmoved | ⟨status, body, finalUrl, same, _⟩
      · exact unmoved
      · nomatch same
    subst unmoved
    trivial
  | response status body finalUrl =>
    refine readPageResponse_settles (stands.imp id ?_)
    rintro ⟨status', body', finalUrl', same, settled⟩
    cases same
    exact settled

variable {program : LocalProgram LocalResultV1}

theorem endDrive_settles
    (settles : program.Keeps (writesOnce code) Settled (SettledError role) before) :
    (tryFinally program (attempts (.endDrive session))).Keeps (writesOnce code) Settled
      (SettledError role) before := by
  have ended (after : DeliveryV1) : Stays (writesOnce code) after (fun _ => after = .undelivered)
      (attempts (.endDrive session)) :=
    silent_attempts (silent_of_noRole rfl fun _ _ => rfl) fun error recovers => recovers error rfl
  rw [keeps_tryFinally]
  refine settles.mono (fun result after settled => ?_) fun error after settled => ?_
  · exact (ended after).keeps (fun _ => settled) fun _ unmoved => .inl unmoved
  · exact (ended after).keeps (fun _ => settled) fun _ unmoved => .inl unmoved

variable {execute : SubCallV1 → LocalProgram LocalResultV1}

/-- What is executed below an execution delivers nothing for it. -/
def DeliversNothing (code : LocalCodeV1) (execute : SubCallV1 → LocalProgram LocalResultV1) : Prop :=
  BelowStays (writesOnce code) .undelivered (fun _ => True) belowScope execute

theorem DeliversNothing.resolves (below : DeliversNothing code execute) (prereq : StrategyPrereqV1)
    (platform : Units) (args : CallArgs) (tokens : OrderedMap Units JsValue) (depth : Nat)
    (identity : Option Units) (suppressStrategyState : Bool) :
    Stays (writesOnce code) .undelivered (fun _ => True) (resolveCapabilityPrereq code execute
      prereq platform args tokens depth identity suppressStrategyState) :=
  resolveCapabilityPrereq_stays (writesOnce_admits code) (fun _ => trivial) trivial trivial
    (below _ fun _ => trivial) (fun _ _ => trivial) _ _ _

/-- A strategy over HTTP that is executed in a page is settled. -/
theorem executeFetchInBrowser_settles (below : DeliversNothing code execute)
    (strategy : LocalStrategyV1) (call : StrategyCallV1) :
    (executeFetchInBrowser code execute strategy call).Keeps (writesOnce code) Settled
      (SettledError call.role) .undelivered := by
  have admits := writesOnce_admits code
  have scanned : Stays (writesOnce code) .undelivered (fun _ => True)
      (scanCachedPrereqs call.hasTokenCache call.platform (fun prereq tokens =>
        resolveCapabilityPrereq code execute prereq call.platform call.args tokens call.depth none
          false) strategy.prerequisites []) :=
    scanCachedPrereqs_stays admits (fun _ => trivial)
      (fun prereq _ _ bound => below.resolves prereq _ _ bound _ _ _) []
  have loaded : Stays (writesOnce code) .undelivered (fun _ => True)
      (performs (.loadStorageStatePath call.platform call.identity)) :=
    admits.performs ⟨trivial, trivial, trivial⟩
  unfold executeFetchInBrowser
  dsimp only
  rw [keeps_bind]
  refine scanned.keeps (fun ⟨tokens, browserPrereqs⟩ => ?_) fun _ _ => .inl rfl
  dsimp only
  rw [keeps_bind]
  refine loaded.keeps (fun storageState => ?_) fun _ _ => .inl rfl
  refine openSession_bind admits ⟨trivial, trivial, trivial⟩ (fun _ _ => .inl rfl)
    fun session drives => endDrive_settles ?_
  have interrupted (bound : OrderedMap Units JsValue) : Stays (writesOnce code) .undelivered
      (fun _ => True) (attempts (.fireInterrupts session strategy bound)) := admits.attempts drives
  have located : Stays (writesOnce code) .undelivered (fun _ => True)
      (performs (.getUrl session)) := admits.performs drives
  unfold runInSession
  rw [keeps_bind]
  refine (runBrowserPrereqs_stays admits (fun _ => trivial) drives browserPrereqs tokens).keeps
    (fun bound => ?_) fun _ _ => .inl rfl
  split
  · trivial
  · rw [keeps_bind]
    refine (interrupted bound).keeps (fun interrupts => ?_) fun _ _ => .inl rfl
    dsimp only
    rw [keeps_bind]
    refine (admits.resolves _).keeps (fun generated => ?_) fun _ _ => .inl rfl
    cases generated with
    | inl needed => trivial
    | inr args =>
      dsimp only
      rw [keeps_bind]
      refine located.keeps (fun currentUrl => ?_) fun _ _ => .inl rfl
      split
      · exact fireRequestInSession_settles session strategy args call none
      · rw [keeps_bind]
        refine (admits.resolves _).keeps (fun url => ?_) fun _ _ => .inl rfl
        exact fireRequestInSession_settles session strategy args call (some url)

theorem frameSent_settled (ack : Option Units)
    (answered : after = .undelivered ∨ after = .delivered) : Settled (frameSent ack) after := by
  rcases answered with same | same
  · subst same
    trivial
  · subst same
    exact (settled_of_status rfl rfl : Settled (frameSent ack) (deliveryOfStatus 200))

theorem sendWebSocketFrame_stands (code : LocalCodeV1) (role : RequestRoleV1) (session : SessionV1)
    (url frame : Units) (ackMatch : Option Units) :
    let after := deliveryAfter code .undelivered
      (.risky (.sendWebSocketFrame role session url frame ackMatch)) (.ok none)
    after = .undelivered ∨ after = if ackMatch.isSome then .unanswered else .delivered := by
  intro after
  cases isTop : role.isTop with
  | false => exact .inl (by simp only [after, deliveryAfter, isTop, Bool.false_eq_true, if_false])
  | true => exact .inr (by simp only [after, deliveryAfter, isTop, if_true, deliveryOfFrame])

theorem ackAwaited_settles {ackMatch : Units}
    (awaits : before = .undelivered ∨ before = .unanswered) :
    (do
      match ← attempts (.waitForAck session ackMatch) with
      | none => return frameUnconfirmed (ascii "ack_timeout")
      | some payload => return frameSent (some payload) : LocalProgram LocalResultV1).Keeps
      (writesOnce code) Settled (SettledError role) before := by
  unfold attempts
  rw [keeps_bind, keeps_bind, keeps_perform]
  refine ⟨fun isTop => Bool.noConfusion isTop, fun answer relied => ?_⟩
  rw [keeps_ofExcept]
  cases answer with
  | error error =>
    refine .inl ?_
    by_contra moved
    exact relied.1 moved error rfl
  | ok ack =>
    cases ack with
    | none => exact settled_unconfirmed rfl rfl _
    | some payload =>
      refine frameSent_settled (some payload) ?_
      rcases awaits with same | same
      · subst same
        exact .inl rfl
      · subst same
        exact .inr rfl

theorem sendFrameInSession_settles (socket : WebSocketPartV1) (session : SessionV1)
    (role : RequestRoleV1) (url frame : Units) :
    (sendFrameInSession socket session role url frame).Keeps (writesOnce code) Settled
      (SettledError role) .undelivered := by
  have stands := sendWebSocketFrame_stands code role session url frame socket.ackMatch
  unfold sendFrameInSession
  rw [keeps_bind]
  show (attempts (.sendWebSocketFrame role session url frame socket.ackMatch)).Keeps _ _ _ _
  unfold attempts
  rw [keeps_bind, keeps_perform]
  refine ⟨fun _ _ => rfl, fun answer relied => ?_⟩
  rw [keeps_ofExcept]
  cases answer with
  | error error =>
    refine .inl ?_
    by_contra moved
    exact relied.1 moved error rfl
  | ok failed =>
    cases failed with
    | some error => exact settled_unconfirmed rfl rfl _
    | none =>
      -- Whether an answer is awaited says how the frame stands.
      generalize socket.ackMatch = ackMatch at stands ⊢
      cases ackMatch with
      | none => exact frameSent_settled none stands
      | some awaited => exact ackAwaited_settles stands

/-- A strategy over a web socket that is executed in a page is settled. -/
theorem executeWebSocketBrowser_settles (below : DeliversNothing code execute)
    (strategy : LocalStrategyV1) (socket : WebSocketPartV1) (call : StrategyCallV1) :
    (executeWebSocketBrowser code execute strategy socket call).Keeps (writesOnce code) Settled
      (SettledError call.role) .undelivered := by
  have admits := writesOnce_admits code
  have loaded : Stays (writesOnce code) .undelivered (fun _ => True)
      (performs (.loadStorageStatePath call.platform call.identity)) :=
    admits.performs ⟨trivial, trivial, trivial⟩
  have readied : Stays (writesOnce code) .undelivered (fun _ => True)
      (orElse (socket.wsOpen ≠ .none ∧ socket.origin ≠ [])
        (resolves (code.readyPage strategy call.args)) none) := .orElse fun _ => admits.resolves _
  have scanned : Stays (writesOnce code) .undelivered (fun _ => True)
      (scanCachedPrereqs call.hasTokenCache call.platform (fun prereq tokens =>
        resolveCapabilityPrereq code execute prereq call.platform call.args tokens call.depth none
          false) strategy.prerequisites []) :=
    scanCachedPrereqs_stays admits (fun _ => trivial)
      (fun prereq _ _ bound => below.resolves prereq _ _ bound _ _ _) []
  unfold executeWebSocketBrowser
  rw [keeps_bind]
  refine loaded.keeps (fun storageState => ?_) fun _ _ => .inl rfl
  rw [keeps_bind]
  refine readied.keeps (fun ready => ?_) fun _ _ => .inl rfl
  refine openSession_bind admits ⟨trivial, trivial, trivial⟩ (fun _ _ => .inl rfl)
    fun session drives => endDrive_settles ?_
  unfold runSocketInSession
  dsimp only
  rw [keeps_bind]
  refine scanned.keeps (fun ⟨tokens, browserPrereqs⟩ => ?_) fun _ _ => .inl rfl
  dsimp only
  rw [keeps_bind]
  refine (runBrowserPrereqs_stays admits (fun _ => trivial) drives browserPrereqs tokens).keeps
    (fun bound => ?_) fun _ _ => .inl rfl
  rw [keeps_bind]
  refine (navigateForSocket_stays admits drives _).keeps (fun missed => ?_) fun _ _ => .inl rfl
  cases missed with
  | some result => trivial
  | none =>
    dsimp only
    rw [keeps_bind]
    refine (admits.resolves _).keeps (fun url => ?_) fun _ _ => .inl rfl
    rw [keeps_bind]
    refine (openSocket_stays admits drives url _).keeps (fun unopened => ?_) fun _ _ => .inl rfl
    cases unopened with
    | some result => trivial
    | none =>
      have framed (args : CallArgs) : Stays (writesOnce code) .undelivered (fun _ => True)
          (frameOf code strategy socket session args) :=
        .ite (fun _ => .bind (admits.attempts drives) fun frame => .pure _)
          fun _ => admits.resolves _
      dsimp only
      rw [keeps_bind]
      refine (framed _).keeps (fun frame => ?_) fun _ _ => .inl rfl
      cases frame with
      | inl needed => trivial
      | inr frame => exact sendFrameInSession_settles socket session call.role url frame

/-- A strategy over a web socket that is executed from Node is settled. -/
theorem executeWebSocketNode_settles (below : DeliversNothing code execute)
    (strategy : LocalStrategyV1) (socket : WebSocketPartV1) (call : StrategyCallV1) :
    (executeWebSocketNode code execute strategy socket call).Keeps (writesOnce code) Settled
      (SettledError call.role) .undelivered := by
  have admits := writesOnce_admits code
  have resolved : Stays (writesOnce code) .undelivered (fun _ => True)
      (resolveNodeCompatiblePrereqs code call.hasTokenCache (fun prereq tokens =>
        resolveCapabilityPrereq code execute prereq call.platform call.args tokens call.depth
          call.identity false) call.args call.platform call.capability none
        strategy.prerequisites []) :=
    resolveNodeCompatiblePrereqs_stays admits (fun _ => trivial) rfl
      (fun _ _ _ => ⟨trivial, trivial, trivial⟩)
      (fun prereq _ _ bound => below.resolves prereq _ _ bound _ _ _) []
  have permitted (url workload : Units) : Stays (writesOnce code) .undelivered (fun _ => True)
      (attempts (.acquirePermit url workload)) := admits.attempts trivial
  unfold executeWebSocketNode
  dsimp only
  rw [keeps_bind]
  refine resolved.keeps (fun tokens => ?_) fun _ _ => .inl rfl
  split
  · exact .inl rfl
  · rw [keeps_bind]
    refine (admits.resolves _).keeps (fun frame => ?_) fun _ _ => .inl rfl
    cases frame with
    | inl needed => trivial
    | inr frame =>
      dsimp only
      rw [keeps_bind]
      refine (admits.resolves _).keeps (fun url => ?_) fun _ _ => .inl rfl
      rw [keeps_bind]
      refine (admits.resolves _).keeps (fun headers => ?_) fun _ _ => .inl rfl
      rw [keeps_bind]
      refine (permitted _ _).keeps (fun _ => ?_) fun _ _ => .inl rfl
      unfold performs
      rw [keeps_bind, keeps_perform]
      refine ⟨fun _ _ => rfl, fun answer relied => ?_⟩
      have stands : (writesOnce code).after .undelivered (.sure (.sendNodeWebSocketFrame call.role
          url headers frame socket.ackMatch)) answer =
            if call.role.isTop then deliveryOfNodeFrame answer else .undelivered := rfl
      cases answer with
      | sent ack =>
        dsimp only
        rw [keeps_bind]
        refine (releasePermit_silent _).keeps (fun _ => frameSent_settled ack ?_)
          fun _ unmoved => .inl unmoved
        rw [stands]
        cases call.role.isTop
        · exact .inl rfl
        · exact .inr rfl
      | failed failure sent error =>
        dsimp only
        rw [keeps_bind]
        refine (releasePermit_silent _).keeps (fun _ => ?_) fun _ unmoved => .inl unmoved
        split
        · exact settled_unconfirmed rfl rfl _
        · next unsent =>
          have unmoved : (writesOnce code).after .undelivered (.sure (.sendNodeWebSocketFrame
              call.role url headers frame socket.ackMatch)) (.failed failure sent error) =
                .undelivered := by
            rw [stands, deliveryOfNodeFrame, if_neg unsent, ite_self]
          split
          · exact .inl unmoved
          · rw [unmoved]
            trivial

/-- An answer of a tier is settled, and without one nothing was delivered. -/
def SettledAnswer (answer : Option LocalResultV1) (after : DeliveryV1) : Prop :=
  match answer with
  | none => after = .undelivered
  | some result => Settled result after

theorem Settled.answered
    (settles : program.Keeps (writesOnce code) Settled (SettledError role) before) :
    (do
      let result ← program
      return some result : LocalProgram (Option LocalResultV1)).Keeps (writesOnce code)
      SettledAnswer (SettledError role) before := by
  rw [keeps_bind]
  exact settles.mono (fun _ _ settled => settled) fun _ _ settled => settled

theorem signalled_settles
    (settles : program.Keeps (writesOnce code) Settled (SettledError role) before) :
    (tryCatch
      (do
        let result ← program
        return .inl result)
      (fun error =>
        match error with
        | .transportFailure signal => return .inr signal
        | _ => throw error) : LocalProgram (LocalResultV1 ⊕ Units)).Keeps (writesOnce code)
      (fun attempt after => match attempt with
        | .inl result => Settled result after
        | .inr _ => after = .undelivered) (SettledError role) before := by
  rw [keeps_tryCatch, keeps_bind]
  refine settles.mono (fun _ _ settled => settled) fun error after settled => ?_
  cases error with
  | transportFailure signal =>
    rcases settled with unmoved | ⟨_, found, details, same⟩
    · exact unmoved
    · nomatch same
  | state | requestTimeout | scheduler | prereq | other => exact settled

theorem dispatchWebSocket_settles (below : DeliversNothing code execute)
    (strategy : LocalStrategyV1) (socket : WebSocketPartV1) (call : StrategyCallV1)
    (hasPool suppressStrategyState : Bool) :
    (dispatchWebSocket code execute strategy socket call hasPool suppressStrategyState).Keeps
      (writesOnce code) SettledAnswer (SettledError call.role) .undelivered := by
  have inPage := Settled.answered (executeWebSocketBrowser_settles below strategy socket call)
  unfold dispatchWebSocket
  split
  · rw [keeps_bind]
    refine (signalled_settles (executeWebSocketNode_settles below strategy socket call)).mono ?_
      fun _ _ settled => settled
    intro attempt after settled
    cases attempt with
    | inl result => exact settled
    | inr signal =>
      subst settled
      dsimp only
      split
      · have recorded : Stays (writesOnce code) .undelivered (fun _ => True)
            (whenever (suppressStrategyState = false)
              (recordNodeTransportFailures call.platform call.capability .websocket signal)) :=
          .whenever fun _ => recordNodeTransportFailures_stays (writesOnce_admits code) trivial _ _
        rw [keeps_bind]
        exact recorded.keeps (fun _ => inPage) fun _ _ => .inl rfl
      · rfl
  · split
    · exact inPage
    · rfl

variable {call : LocalExecutionV1} {strategy : LocalStrategyV1} {hasPool hasTokenCache : Bool}

theorem call_within (call : LocalExecutionV1) (hasTokenCache : Bool) :
    call.Within belowScope hasTokenCache :=
  ⟨trivial, trivial, rfl, fun _ => trivial, fun _ => trivial⟩

/-- A strategy on its tier is settled. -/
theorem runTier_settles (below : DeliversNothing code execute) (args : CallArgs) :
    (runTier code execute hasPool hasTokenCache call strategy args).Keeps (writesOnce code)
      SettledAnswer (SettledError (.main call.depth)) .undelivered := by
  have admits := writesOnce_admits code
  have inPage := Settled.answered (executeFetchInBrowser_settles below strategy
    (call.strategyCall args hasTokenCache (.main call.depth)))
  unfold runTier
  dsimp only
  split
  · exact dispatchWebSocket_settles below _ _ _ _ _
  · exact dispatchWebSocket_settles below _ _ _ _ _
  · rw [keeps_bind]
    refine (signalled_settles (executeFetchNode_settles fun prereq bound =>
      below.resolves prereq _ _ bound _ _ _)).mono ?_ fun _ _ settled => settled
    intro attempt after settled
    cases attempt with
    | inl result => exact settled
    | inr signal =>
      subst settled
      dsimp only
      split
      · have recorded : Stays (writesOnce code) .undelivered (fun _ => True)
            (whenever (call.suppressStrategyState = false)
              (recordNodeTransportFailures call.platform call.capability .http signal)) :=
          .whenever fun _ => recordNodeTransportFailures_stays admits trivial _ _
        rw [keeps_bind]
        exact recorded.keeps (fun _ => inPage) fun _ _ => .inl rfl
      · rfl
  · split
    · exact inPage
    · rfl
  · split
    · have recorded : Stays (writesOnce code) .undelivered (fun _ => True)
          (executeRecordedPath code execute strategy
            (call.strategyCall args hasTokenCache (.main call.depth))) :=
        executeRecordedPath_stays admits (fun _ => trivial) trivial ⟨trivial, trivial, trivial⟩
          fun prereq _ _ bound => below.resolves prereq _ _ bound _ _ _
      rw [keeps_bind]
      exact recorded.keeps (fun _ => trivial) fun _ _ => .inl rfl
    · rfl

/-- A turn that answers is settled by its answer, and else nothing was delivered. -/
def SettledTurn (turn : TurnV1) (after : DeliveryV1) : Prop :=
  match turn with
  | .answered result => Settled result after
  | .next _ | .missed _ => after = .undelivered

theorem recordFailure_undelivered (call : LocalExecutionV1) (tier : StrategyTier) :
    Stays (writesOnce code) .undelivered (fun _ => True) (recordFailure call tier) :=
  recordFailure_stays (writesOnce_admits code) (call_within call true) tier

theorem recordSuccess_silent (call : LocalExecutionV1) (strategy : LocalStrategyV1)
    (result : LocalResultV1) :
    Stays (writesOnce code) before (fun _ => before = .undelivered)
      (recordSuccess code call strategy result) :=
  .whenever fun _ => .bind (silent_performs (silent_of_noRole rfl fun _ _ => rfl)) fun _ =>
    .bind (.whenever fun _ => silent_attempts (silent_of_noRole rfl fun _ _ => rfl)
      fun error recovers => recovers error rfl) fun _ =>
        .whenever fun _ => silent_performs (silent_of_noRole rfl fun _ _ => rfl)

theorem Settled.accepted (settled : Settled result after)
    (failed : classifyFactoryExecutionResult result.toExecuteResultV1 = .transportFailure) :
    after = .undelivered := by
  cases after with
  | undelivered => rfl
  | delivered => exact absurd failed settled.2
  | unanswered =>
    unfold classifyFactoryExecutionResult at failed
    rw [settled.2] at failed
    nomatch failed

variable {state : CascadeStateV1}

theorem judgeResult_settles (settled : Settled result before) :
    (judgeResult code call strategy state result).Keeps (writesOnce code) SettledTurn
      (SettledError role) before := by
  have succeeds : (do
      recordSuccess code call strategy result
      return .answered result : LocalProgram TurnV1).Keeps (writesOnce code) SettledTurn
      (SettledError role) before := by
    rw [keeps_bind]
    exact (recordSuccess_silent call strategy result).keeps (fun _ => settled)
      fun _ unmoved => .inl unmoved
  unfold judgeResult
  split
  · exact settled
  · split
    · exact settled
    · exact settled
    · exact settled
    · next failed =>
      have unmoved := settled.accepted failed
      subst unmoved
      rw [keeps_bind]
      refine (recordFailure_undelivered call strategy.tier).keeps (fun _ => ?_) fun _ _ => .inl rfl
      dsimp only
      split
      · rfl
      · rfl
    · exact succeeds
    · exact succeeds

theorem tryTier_settles (below : DeliversNothing code execute) (state : CascadeStateV1) :
    (tryTier code execute hasPool hasTokenCache call strategy state).Keeps (writesOnce code)
      SettledTurn (SettledError (.main call.depth)) .undelivered := by
  have admits := writesOnce_admits code
  unfold tryTier
  rw [keeps_bind]
  refine (validateEnumArgs_stays admits (call_within call hasTokenCache) (below _ fun _ => trivial)
    _ _).keeps (fun unobserved => ?_) fun _ _ => .inl rfl
  split
  · rfl
  · rw [keeps_bind]
    refine (runTier_settles below state.args).mono ?_ fun _ _ settled => settled
    intro answer after settled
    cases answer with
    | none => exact settled
    | some result => exact judgeResult_settles settled

theorem turnFailure_settles {tier : StrategyTier} (settled : SettledError role error before) :
    (turnFailure call tier state error).Keeps (writesOnce code) SettledTurn
      (fun _ after => after = .undelivered) before := by
  rcases settled with unmoved | ⟨_, found, details, same⟩
  · subst unmoved
    unfold turnFailure
    split
    · trivial
    · rw [keeps_bind]
      exact (recordFailure_undelivered call tier).keeps (fun _ => rfl) fun _ _ => rfl
  · subst same
    exact settled_unconfirmed rfl rfl _

theorem endDriveQuietly_silent (session : SessionV1) :
    Stays (writesOnce code) before errors (performs (.endDriveQuietly session)) :=
  silent_performs (silent_of_noRole rfl fun _ _ => rfl)

theorem retryPrimary_settles (below : DeliversNothing code execute) (args : CallArgs)
    (session : SessionV1) :
    (retryPrimary code execute hasTokenCache call strategy args session).Keeps (writesOnce code)
      Settled (SettledError (.retry call.depth)) .undelivered := by
  have inPage := executeFetchInBrowser_settles below strategy
    (call.strategyCall args hasTokenCache (.retry call.depth))
  unfold retryPrimary
  split
  · unfold retryFetch
    dsimp only
    rw [keeps_bind, keeps_bind]
    have ended {result : LocalResultV1} {after : DeliveryV1} (settled : Settled result after) :
        (do
          performs (.endDriveQuietly session)
          return result : LocalProgram LocalResultV1).Keeps (writesOnce code) Settled
          (SettledError (.retry call.depth)) after := by
      rw [keeps_bind]
      exact (endDriveQuietly_silent session).keeps (fun _ => settled) fun _ never => never
    refine (signalled_settles (executeFetchNode_settles fun prereq bound =>
      below.resolves prereq _ _ bound _ _ _)).mono ?_ fun _ _ settled => settled
    intro attempt after settled
    cases attempt with
    | inl result => exact ended settled
    | inr signal =>
      subst settled
      exact inPage.mono (fun _ _ settled => ended settled) fun _ _ settled => settled
  · rw [keeps_bind]
    exact (endDriveQuietly_silent session).keeps (fun _ => inPage) fun _ never => never

/-- A partial replay with the main request behind it is settled, and fails before writes only. -/
theorem tryRevisitPartialReplay_settles (below : DeliversNothing code execute)
    (strategies : List LocalStrategyV1) (args : CallArgs) :
    (LocalExecutionV1.tryRevisitPartialReplay code execute hasPool hasTokenCache call strategy
      strategies args).Keeps (writesOnce code) SettledAnswer
        (fun _ after => after = .undelivered) .undelivered := by
  have admits := writesOnce_admits code
  unfold LocalExecutionV1.tryRevisitPartialReplay
  split
  · refine replayRecordedPathToAnchor_bind admits trivial ⟨trivial, trivial, trivial⟩
      (fun _ _ => rfl) rfl fun session drives => ?_
    -- The handler is reached before writes only, so nothing that it swallows was sent.
    have missed {after : DeliveryV1} (unmoved : after = .undelivered) : (do
        performs (.endDriveQuietly session)
        return none : LocalProgram (Option LocalResultV1)).Keeps (writesOnce code) SettledAnswer
        (fun _ after => after = .undelivered) after := by
      rw [keeps_bind]
      exact (endDriveQuietly_silent session).keeps (fun _ => unmoved) fun _ never => never
    dsimp only
    rw [keeps_tryCatch]
    split
    · rw [keeps_bind]
      exact (endDriveQuietly_silent session).keeps (fun _ => rfl) fun _ never => never
    · rw [keeps_bind]
      refine (retryPrimary_settles below args session).mono ?_ ?_
      · intro result after settled
        split
        · next failed => exact settled.accepted failed
        · exact settled
      · intro error after settled
        rcases settled with unmoved | ⟨first, _⟩
        · exact missed unmoved
        · nomatch first
  · rfl

/-- What a turn does once its tier has been tried leaves it settled. -/
theorem afterTier_settles (below : DeliversNothing code execute) (strategies : List LocalStrategyV1)
    (turn : TurnV1) (after : DeliveryV1) : SettledTurn turn after →
      (match turn with
        | .missed missed => tryCatch
          (do
            let retried ← LocalExecutionV1.tryRevisitPartialReplay code execute hasPool
              hasTokenCache call strategy strategies missed.args
            return match retried with
              | some result => .answered result
              | none => .next missed)
          (turnFailure call strategy.tier missed)
        | other => return other : LocalProgram TurnV1).Keeps (writesOnce code) SettledTurn
      (fun _ after => after = .undelivered) after := by
  intro settled
  cases turn with
  | answered result => exact settled
  | next state => exact settled
  | missed missed =>
    -- A miss has delivered nothing, so the revisit starts from an undelivered write.
    subst settled
    dsimp only
    rw [keeps_tryCatch, keeps_bind]
    refine (tryRevisitPartialReplay_settles below strategies missed.args).mono ?_ ?_
    · intro retried after settled
      cases retried with
      | none => exact settled
      | some result => exact settled
    · intro error after unmoved
      exact turnFailure_settles (.inl unmoved : SettledError (.main call.depth) error after)

/-- The turn of a strategy is settled, and fails before writes only. -/
theorem takeTurn_settles (below : DeliversNothing code execute) (strategies : List LocalStrategyV1)
    (state : CascadeStateV1) :
    (takeTurn code execute hasPool hasTokenCache call strategies strategy state).Keeps
      (writesOnce code) SettledTurn (fun _ after => after = .undelivered) .undelivered := by
  have admits := writesOnce_admits code
  unfold takeTurn
  rw [keeps_bind]
  refine (passesProbation_stays admits (call_within call hasTokenCache) strategy.tier).keeps
    (fun passes => ?_) fun _ _ => rfl
  split
  · dsimp only
    split
    · rfl
    · split
      · rfl
      · rw [keeps_bind, keeps_tryCatch]
        refine (tryTier_settles below _).mono (afterTier_settles below strategies) ?_
        intro error after settled
        exact (turnFailure_settles settled).mono (afterTier_settles below strategies) fun _ _ unmoved => unmoved
  · rfl

theorem cascade_settles (below : DeliversNothing code execute) (strategies rest : List LocalStrategyV1)
    (state : CascadeStateV1) :
    (cascade code execute hasPool hasTokenCache call strategies rest state).Keeps (writesOnce code)
      (fun ended after => match ended with
        | .inl result => Settled result after
        | .inr _ => after = .undelivered) (fun _ after => after = .undelivered) .undelivered := by
  induction rest generalizing state with
  | nil => rfl
  | cons strategy rest ih =>
    unfold cascade
    rw [keeps_bind]
    refine (takeTurn_settles below strategies state).mono ?_ fun _ _ unmoved => unmoved
    intro turn after settled
    cases turn with
    | answered result => exact settled
    | next state =>
      subst settled
      exact ih state
    | missed state =>
      subst settled
      exact ih state

variable {again : Option (LocalProgram LocalResultV1)}

/-- Executing once more for want of signing in is settled when the second pass is. -/
theorem maybeRetryAfterAuthWall_settles {strategies : List LocalStrategyV1}
    {last : Option LocalResultV1}
    (second : ∀ program, again = some program → program.Keeps (writesOnce code) Settled (fun _ after => after = .undelivered) .undelivered) :
    (maybeRetryAfterAuthWall code call strategies last again).Keeps (writesOnce code) SettledAnswer
      (fun _ after => after = .undelivered) .undelivered := by
  have admits := writesOnce_admits code
  unfold maybeRetryAfterAuthWall
  split
  · next program found =>
    split
    · rw [keeps_bind]
      refine (collectAuth_keeps admits trivial fun _ _ _ _ => trivial).mono ?_
        fun _ _ unmoved => unmoved.1
      intro found after ⟨same, _⟩
      subst same
      split
      · rfl
      · have evicted : Stays (writesOnce code) .undelivered (fun _ => True)
            (whenever (call.suppressStrategyState = false) (evictAll call.identity found)) :=
          .whenever fun _ => evictAll_stays admits trivial trivial fun _ _ => trivial
        rw [keeps_bind]
        refine evicted.keeps (fun _ => ?_) fun _ _ => rfl
        rw [keeps_bind]
        refine (second program rfl).mono ?_ fun _ _ unmoved => unmoved
        intro result after settled
        -- Behind a write the second pass is the answer.
        cases after with
        | undelivered =>
          show SettledAnswer (if needsReauth result then none else some result) .undelivered
          split
          · rfl
          · trivial
        | delivered =>
          show SettledAnswer (if needsReauth result then none else some result) .delivered
          rw [settled.1]
          exact settled
        | unanswered =>
          show SettledAnswer (if needsReauth result then none else some result) .unanswered
          rw [settled.1]
          exact settled
    · rfl
  · rfl

/-- An execution is settled when the second pass is, and fails before writes only. -/
theorem executeOnce_settles (below : DeliversNothing code execute)
    (finalizeCascadeFailure : CallArgs → CascadeStateV1 → LocalResultV1)
    (second : ∀ program, again = some program → program.Keeps (writesOnce code) Settled (fun _ after => after = .undelivered) .undelivered) :
    (executeOnce code execute finalizeCascadeFailure hasPool hasTokenCache call again).Keeps
      (writesOnce code) Settled (fun _ after => after = .undelivered) .undelivered := by
  have admits := writesOnce_admits code
  have identified : Stays (writesOnce code) .undelivered (fun _ => True)
      (attempts (.getIdentity call.platform call.identity)) := admits.attempts trivial
  have asked : Stays (writesOnce code) .undelivered (fun _ => True)
      (attempts (.isCapabilityForbidden call.platform call.capability)) := admits.attempts trivial
  have found : Stays (writesOnce code) .undelivered (fun _ => True) (strategiesOf call) := by
    unfold strategiesOf
    split
    · exact .pure _
    · exact admits.attempts trivial
  unfold executeOnce
  split
  · trivial
  · rw [keeps_bind]
    refine identified.keeps (fun profile => ?_) fun _ _ => rfl
    rw [keeps_bind]
    refine asked.keeps (fun forbidden => ?_) fun _ _ => rfl
    split
    · trivial
    · rw [keeps_bind]
      refine found.keeps (fun saved => ?_) fun _ _ => rfl
      rw [keeps_bind]
      refine (allowedStrategies_keeps admits saved).mono ?_ fun _ _ unmoved => unmoved.1
      intro strategies after ⟨same, _⟩
      subst same
      split
      · split
        · rfl
        · trivial
      · dsimp only
        rw [keeps_bind]
        refine (cascade_settles below strategies strategies _).mono ?_ fun _ _ unmoved => unmoved
        intro ended after settled
        cases ended with
        | inl result => exact settled
        | inr state =>
          subst settled
          dsimp only
          split
          · trivial
          · rw [keeps_bind]
            refine (maybeRetryAfterAuthWall_settles second).mono ?_ fun _ _ unmoved => unmoved
            intro retried after settled
            cases retried with
            | none =>
              subst settled
              trivial
            | some result => exact settled

theorem executeNested_delivers_nothing (code : LocalCodeV1)
    (finalizeCascadeFailure : CallArgs → CascadeStateV1 → LocalResultV1)
    (hasPool hasTokenCache : Bool) (nesting : Nat) :
    DeliversNothing code fun sub =>
      executeNested code finalizeCascadeFailure hasPool hasTokenCache nesting {
        platform := sub.platform, capability := sub.capability, args := sub.args
        depth := sub.depth, identity := sub.identity, strategyOverride := none
        suppressStrategyState := sub.suppressStrategyState, suppressPersistedCookies := false } := by
  have roles (depth : Nat) (deeper : 0 < depth) : belowScope.role (.main depth) ∧
      belowScope.role (.retry depth) ∧ belowScope.steps (.main depth) := by
    have notTop : (depth == 0) = false := beq_false_of_ne (Nat.ne_of_gt deeper)
    exact ⟨notTop, notTop, trivial⟩
  intro _ _ sub _ _ _ deeper
  obtain ⟨main, retry, steps⟩ := roles sub.depth deeper
  refine executeNested_stays (writesOnce_admits code) roles ?_ finalizeCascadeFailure
    (call_within _ _) ⟨main, retry, steps⟩ ?_
  · intro _ _ _ _ strategy _ _ _
    exact LocalStrategyV1.fits_open trivial trivial fun _ _ _ _ => trivial
  · intro saved _ strategy _
    exact LocalStrategyV1.fits_open trivial trivial fun _ _ _ _ => trivial

/-- No write of an execution is repeated: no main request is sent and no recorded step run behind one
that was delivered or is unanswered, and a result reports what is unanswered. -/
def LocalRuntimeV1.WritesOnce {σ : Type} (runtime : LocalRuntimeV1) (call : LocalExecutionV1)
    (handle : σ → (op : LocalOpV1) → op.Answer × σ) (world : σ) : Prop :=
  let ran := (runtime.execute call).run (I := localInterface) handle world
  let contract := writesOnce runtime.code
  contract.Guarded .undelivered ran.events ∧
    (contract.ghostAfter .undelivered ran.events = .unanswered →
      ∃ result, ran.outcome = .ok result ∧ result.executionState = some .sentUnconfirmed)

/-- Whether an operation did not throw. -/
def LocalOpV1.succeeded : (op : LocalOpV1) → op.Answer → Bool
  | .sure _, _ => true
  | .risky _, answer => answer.toBool

theorem relied_of_succeeded {code : LocalCodeV1} {before : DeliveryV1}
    {events : List (Event localInterface)}
    (plain : ∀ event ∈ events, event.op.role.any RequestRoleV1.isRetry = false ∧
      event.op.succeeded event.answer = true) : (writesOnce code).Relied before events := by
  induction events generalizing before with
  | nil => trivial
  | cons event events ih =>
    obtain ⟨first, succeeded⟩ := plain event (List.mem_cons_self ..)
    refine ⟨⟨fun _ => ?_, fun retried => ?_⟩, ih fun event member => plain event (.tail _ member)⟩
    · obtain ⟨op, answer⟩ := event
      cases op with
      | sure op => trivial
      | risky op =>
        cases answer with
        | error error => nomatch succeeded
        | ok value =>
          cases op with
          | htmlToAriaLikeTree => trivial
          | fetchInBrowser => exact fun _ same => nomatch same
          | _ => exact fun _ same => nomatch same
    · rw [first] at retried
      nomatch retried

/-- The guard of a contract on writes is decided. -/
instance (code : LocalCodeV1) (before : DeliveryV1) (op : LocalOpV1) :
    Decidable ((writesOnce code).guard before op) :=
  inferInstanceAs (Decidable (_ → _ → _))

/-- A strategy that was found at a step of a recorded path, and that path. -/
def anchoredStrategies : List LocalStrategyV1 := [
  { plainLocalStrategy .fetch with anchor := some (ascii "submit") },
  { plainLocalStrategy .recordedPath with stepIds := [some (ascii "submit")] }]

/-- The answers of a shop that is busy at first and then silent. -/
def busyShop : Unit → (op : LocalOpV1) → op.Answer × Unit
  | world, .sure (.sendNodeRequest (.main _) _ request) =>
    (.response {
      status := 503, setCookies := [], contentType := ascii "text/plain", url := request.url }, world)
  | world, .sure (.sendNodeRequest (.retry _) ..) => (.timedOut, world)
  | world, op => (op.plainAnswer anchoredStrategies, world)

end Klura
