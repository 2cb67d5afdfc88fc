import Klura.Invariants.BoundaryHandlers
import Klura.Invariants.BoundaryTraffic
import Klura.Scheduler.Machine

/-! Every permit of the boundary is given back once, by the step that settles its own request. -/

namespace Klura

/-- The permit that a handler was granted and has not used. -/
def HandlerStageV1.held : HandlerStageV1 → List Nat
  | .granted _ permit => [permit]
  | _ => []

/-- The permits that were granted to handlers and not used yet. -/
def BrowserHandlersV1.held (handlers : BrowserHandlersV1) : List Nat :=
  handlers.suspended.flatMap (·.2.held)

/-- Whether reading ended with a body. -/
def BodyOutcomeV1.isBody : BodyOutcomeV1 → Bool
  | .body _ => true
  | _ => false

/-- What is admitted under an id, if anything, holds this permit. -/
def FindsOwn (boundary : BrowserBoundaryV1) (requestId : Units) (permit : Nat) : Prop :=
  ∀ entry, OrderedMap.get? boundary.traffic.admitted requestId = some entry → entry.permit = permit

/-- A handler that is to be resumed meets no other attempt under the id of its request. -/
def ResumesAlone (boundary : BrowserBoundaryV1) (handler : PausedHandlerV1) :
    HandlerStageV1 → Prop
  | .granted judged _ =>
    actionEnded boundary.scopes judged = false → validatePostAcquireState judged boundary = none →
      OrderedMap.get? boundary.traffic.admitted handler.paused.requestId = none
  | .bodyRead admission outcome =>
    outcome.isBody = false → FindsOwn boundary handler.paused.requestId admission.permit
  | _ => True

/-- A handler whose response was taken finds its own admission. -/
def SettlesAlone (boundary : BrowserBoundaryV1) (handler : PausedHandlerV1) :
    HandlerStageV1 → Prop
  | .fulfilling admission => ∃ entry,
    OrderedMap.get? boundary.traffic.admitted handler.paused.requestId = some entry ∧
      entry.permit = admission.permit
  | _ => True

/-- A handler whose command was rejected meets no other attempt under the id of its request. -/
def ReleasesAlone (boundary : BrowserBoundaryV1) (handler : PausedHandlerV1)
    (stage : HandlerStageV1) : Prop :=
  ∀ permit, stage.own = some permit → FindsOwn boundary handler.paused.requestId permit

/-- No handler registers, settles or releases what another attempt has under the id of its
request, and the boundary is closed when nothing is admitted. -/
def Untangled (boundary : BrowserBoundaryV1) : BrowserEventV1 → Prop
  | .resumed id => ∀ entry ∈ boundary.handlers.suspended, entry.1.id = id →
    ResumesAlone boundary entry.1 entry.2
  | .commandDone id => ∀ entry ∈ boundary.handlers.suspended, entry.1.id = id →
    SettlesAlone boundary entry.1 entry.2
  | .commandRejected id => ∀ entry ∈ boundary.handlers.suspended, entry.1.id = id →
    ReleasesAlone boundary entry.1 entry.2
  | .close => boundary.traffic.admitted = []
  | _ => True

@[simp] theorem held_park (handlers : BrowserHandlersV1) (handler : PausedHandlerV1)
    (stage : HandlerStageV1) : (handlers.park handler stage).held = stage.held ++ handlers.held := by
  simp [BrowserHandlersV1.park, BrowserHandlersV1.held]

@[simp] theorem held_send (handlers : BrowserHandlersV1) (handler : PausedHandlerV1)
    (answer : BrowserAnswerV1) (stage : HandlerStageV1) :
    (handlers.send handler answer stage).held = stage.held ++ handlers.held := by
  simp [BrowserHandlersV1.send, BrowserHandlersV1.park, BrowserHandlersV1.held]

@[simp] theorem held_finish (handlers : BrowserHandlersV1) (handler : PausedHandlerV1) :
    (handlers.finish handler).held = handlers.held := by
  cases counted : handler.counted <;> simp [BrowserHandlersV1.finish, counted, BrowserHandlersV1.held]

@[simp] theorem held_drop (handlers : BrowserHandlersV1) (handler : PausedHandlerV1) :
    (handlers.drop handler).held = handlers.held := by
  simp [BrowserHandlersV1.drop, BrowserHandlersV1.held]

/-- What a handler does keeps the permits accounted for, those it holds itself included. -/
def Runs (extra : List Nat) (before after : BrowserBoundaryV1) : Prop :=
  Advances before.traffic (extra ++ before.handlers.held) after.traffic after.handlers.held

theorem fail_runs (handler : PausedHandlerV1) (error : PublicHttpExecutionError)
    (boundary : BrowserBoundaryV1) : Runs [] boundary (boundary.fail handler error) := by
  have settled := Advances.releaseVanishedRequest boundary.traffic boundary.handlers.held
    handler.paused.requestId
  have ended := settled.trans (Advances.rejectQuietWaiters _ _)
  simpa [Runs, BrowserBoundaryV1.fail, HandlerStageV1.held] using ended

theorem deny_runs (urls : UrlClassV1) (handler : PausedHandlerV1) (boundary : BrowserBoundaryV1) :
    Runs [] boundary (boundary.deny urls handler) := by
  simpa [Runs, BrowserBoundaryV1.deny, HandlerStageV1.held] using
    Advances.refl boundary.traffic boundary.handlers.held

theorem followRedirectHop_runs (paused : BrowserFetchPausedV1) (boundary : BrowserBoundaryV1) :
    Runs [] boundary (followRedirectHop paused boundary).1 := by
  cases redirected : paused.redirectedFrom with
  | none =>
    simpa [Runs, followRedirectHop, redirected] using
      Advances.refl boundary.traffic boundary.handlers.held
  | some requestId =>
    have settled := Advances.releaseVanishedRequest boundary.traffic boundary.handlers.held requestId
    cases found : OrderedMap.get? boundary.traffic.admitted requestId with
    | none => simpa [Runs, followRedirectHop, redirected, found] using settled
    | some admission =>
      simp only [Runs, followRedirectHop, redirected, found, List.nil_append]
      split_ifs <;> exact settled

variable {first second third : BrowserBoundaryV1}

theorem Runs.trans {extra : List Nat} (left : Runs extra first second)
    (right : Runs [] second third) : Runs extra first third :=
  Advances.trans left right

theorem Runs.like {extra : List Nat} (traffic : second.traffic = first.traffic)
    (held : second.handlers.held = first.handlers.held) (runs : Runs extra second third) :
    Runs extra first third := by
  unfold Runs at runs ⊢
  rwa [traffic, held] at runs

theorem handleBrowserRequestStage_runs (urls : UrlClassV1) (handler : PausedHandlerV1)
    (boundary : BrowserBoundaryV1) :
    Runs [] boundary (handleBrowserRequestStage urls handler boundary) := by
  have superseded : Runs [] boundary { boundary with
      traffic := supersedeEarlierAttempts handler.paused boundary.traffic } := by
    simp only [Runs, supersedeEarlierAttempts, List.nil_append]
    split_ifs
    · exact Advances.releaseAll _ _ _
    · exact Advances.refl _ _
  have followed := superseded.trans (followRedirectHop_runs handler.paused _)
  simp only [handleBrowserRequestStage]
  split
  · next next error redirected =>
    rw [redirected] at followed
    exact followed.trans (fail_runs handler error _)
  · next next redirected =>
    rw [redirected] at followed
    split
    · exact followed.trans (deny_runs urls handler _)
    · exact followed.trans (fail_runs handler _ _)
    · refine followed.trans ?_
      simpa [Runs, HandlerStageV1.held] using Advances.refl _ _

theorem handleResponseStage_runs (urls : UrlClassV1) (handler : PausedHandlerV1) (status : Nat)
    (boundary : BrowserBoundaryV1) :
    Runs [] boundary (handleResponseStage urls handler status boundary) := by
  simp only [handleResponseStage]
  cases found : OrderedMap.get? boundary.traffic.admitted handler.paused.requestId with
  | none => exact fail_runs handler _ boundary
  | some admission =>
    simp only
    split_ifs
    · simp only [continueRedirect]
      split_ifs
      · refine Runs.like ?_ ?_ (fail_runs handler _ _)
        · rfl
        · rfl
      · -- The admission was read in this very step, so it is its own.
        have settled : Advances boundary.traffic boundary.handlers.held
            (boundary.traffic.settleAdmission handler.paused.requestId admission .success)
            boundary.handlers.held := Advances.settleAdmission .success found rfl
        simpa [Runs, HandlerStageV1.held] using settled
    · simpa [Runs, BrowserHandlersV1.park, BrowserHandlersV1.held, HandlerStageV1.held] using
        Advances.refl boundary.traffic boundary.handlers.held

theorem handleFetchPaused_runs (urls : UrlClassV1) (paused : BrowserFetchPausedV1)
    (boundary : BrowserBoundaryV1) :
    Runs [] boundary (boundary.handleFetchPaused urls paused) := by
  simp only [BrowserBoundaryV1.handleFetchPaused]
  split
  · refine Runs.like ?_ ?_ (fail_runs _ _ _) <;> rfl
  · refine Runs.like ?_ ?_ (fail_runs _ _ _) <;> rfl
  · refine Runs.like ?_ ?_ (handleBrowserRequestStage_runs urls _ _) <;> rfl
  · refine Runs.like ?_ ?_ (handleResponseStage_runs urls _ _ _) <;> rfl

theorem admitBrowserRequest_runs (urls : UrlClassV1) (handler : PausedHandlerV1)
    (judged : JudgedBrowserRequestV1) (permit : Nat) (boundary : BrowserBoundaryV1)
    (alone : ResumesAlone boundary handler (.granted judged permit)) :
    Runs [permit] boundary (admitBrowserRequest urls handler judged permit boundary) := by
  have returned : Runs [permit] boundary
      { boundary with traffic := boundary.traffic.releasePermit permit .neutral } :=
    Advances.releasePermit _ _ _ _
  simp only [admitBrowserRequest]
  by_cases ended : actionEnded boundary.scopes judged = true
  · rw [if_pos ended]
    exact returned.trans (deny_runs urls handler _)
  · rw [if_neg ended]
    cases valid : validatePostAcquireState judged boundary with
    | some error => exact returned.trans (fail_runs handler error _)
    | none =>
      have fresh := alone (by simpa using ended) valid
      have registered : Advances boundary.traffic (permit :: boundary.handlers.held)
          (boundary.traffic.register (admissionOf urls handler.paused judged permit))
          boundary.handlers.held :=
        Advances.register boundary.traffic boundary.handlers.held
          (admissionOf urls handler.paused judged permit) fresh
      simpa [Runs, HandlerStageV1.held] using registered

theorem releaseDropped_runs (handler : PausedHandlerV1) (boundary : BrowserBoundaryV1) :
    Runs [] boundary (releaseDropped handler boundary) := by
  simpa [Runs, releaseDropped] using Advances.releaseVanishedRequest boundary.traffic
    boundary.handlers.held handler.paused.requestId

theorem answerBody_runs (handler : PausedHandlerV1) (admission : AdmittedBrowserRequestV1)
    (outcome : BodyOutcomeV1) (boundary : BrowserBoundaryV1) :
    Runs [] boundary (answerBody handler admission outcome boundary) := by
  cases outcome with
  | body bytes =>
    simpa [Runs, answerBody, HandlerStageV1.held] using
      Advances.refl boundary.traffic boundary.handlers.held
  | failed error => exact fail_runs handler error boundary
  | dropped => exact releaseDropped_runs handler boundary

theorem settleFulfilled_runs (handler : PausedHandlerV1) (admission : AdmittedBrowserRequestV1)
    (boundary : BrowserBoundaryV1)
    (alone : SettlesAlone boundary handler (.fulfilling admission)) :
    Runs [] boundary (settleFulfilled handler admission boundary) := by
  obtain ⟨entry, found, own⟩ := alone
  have settled (outcome : SchedulerCompletionV1) : Advances boundary.traffic
      boundary.handlers.held
      (boundary.traffic.settleAdmission handler.paused.requestId admission outcome)
      boundary.handlers.held := Advances.settleAdmission outcome found own
  simpa [Runs, settleFulfilled] using settled _

theorem Runs.taken {boundary after : BrowserBoundaryV1} {id : Nat} {handler : PausedHandlerV1}
    {stage : HandlerStageV1} {others : List (PausedHandlerV1 × HandlerStageV1)}
    (taken : BrowserHandlersV1.takeHandler id boundary.handlers.suspended =
      some ((handler, stage), others))
    (runs : Runs stage.held (boundary.without others) after) : Runs [] boundary after := by
  intro accounted
  obtain ⟨_, permuted⟩ := takeHandler_perm taken
  have held : boundary.handlers.held.Perm
      (stage.held ++ (boundary.without others).handlers.held) := by
    simpa [BrowserHandlersV1.held, BrowserBoundaryV1.without] using
      permuted.flatMap_right fun entry => entry.2.held
  exact runs (accounted.perm held)

variable {after : BrowserBoundaryV1}

theorem Runs.idle {before : BrowserBoundaryV1} (traffic : after.traffic = before.traffic)
    (held : after.handlers.held = before.handlers.held) : Runs [] before after := by
  unfold Runs
  rw [traffic, held]
  exact Advances.refl _ _

theorem waitForQuiet_runs (maximumInFlight quietMs : Nat) (boundary : BrowserBoundaryV1) :
    Runs [] boundary (boundary.waitForQuiet maximumInFlight quietMs) := by
  simp only [BrowserBoundaryV1.waitForQuiet]
  split_ifs
  · exact Runs.idle rfl rfl
  · intro accounted
    refine ⟨{ accounted with timers := ?_ }, ⟨fun _ member => .inl member, fun _ given => given⟩⟩
    -- A timer was just set where the requests in flight are few enough.
    intro waiter waiting running
    simp only [BrowserTrafficV1.notifyActivity, List.mem_map] at waiting running ⊢
    obtain ⟨old, _, rfl⟩ := waiting
    simpa using running

theorem withoutWaiter_runs (id : Nat) (boundary : BrowserBoundaryV1) :
    Runs [] boundary (boundary.withoutWaiter id) := by
  intro accounted
  refine ⟨{ accounted with timers := ?_ }, ⟨fun _ member => .inl member, fun _ given => given⟩⟩
  intro waiter waiting running
  exact accounted.timers waiter (List.mem_of_mem_filter waiting) running

variable {boundary : BrowserBoundaryV1}

theorem close_runs (idle : boundary.traffic.admitted = []) :
    Runs [] boundary boundary.close := by
  intro accounted
  have counted := accounted.counted
  have permits := accounted.permits
  refine ⟨⟨?_, ?_, ?_, ?_, ?_⟩, ⟨fun entry member => .inl ?_, fun _ given => ?_⟩⟩
  · simpa [BrowserBoundaryV1.close, idle] using counted
  · simp [BrowserBoundaryV1.close, OrderedMap.keys]
  · simp [BrowserBoundaryV1.close]
  · simpa [BrowserBoundaryV1.close, idle, BrowserTrafficV1.releasedPermits,
      BrowserTrafficV1.admittedPermits, BrowserHandlersV1.held] using permits
  · simp [BrowserBoundaryV1.close]
  · simp [idle] at member
  · simpa [BrowserBoundaryV1.close, idle, BrowserTrafficV1.releasedPermits] using given

/-- A handler that meets no other attempt keeps the permits accounted for. -/
theorem HandlerRun.runs {urls : UrlClassV1} {handler : PausedHandlerV1}
    {rest after : BrowserBoundaryV1} {event : BrowserEventV1} {stage : HandlerStageV1}
    (runs : HandlerRun urls handler rest event stage after)
    (resumes : ∀ id, event = .resumed id → ResumesAlone rest handler stage)
    (settles : ∀ id, event = .commandDone id → SettlesAlone rest handler stage) :
    Runs stage.held rest after := by
  cases runs with
  | acquired id judged =>
    simpa [Runs, BrowserBoundaryV1.acquired, HandlerStageV1.held] using
      Advances.grant rest.traffic rest.handlers.held
  | acquireFailed id cancelled message judged => exact fail_runs handler _ rest
  | admitted id judged permit =>
    exact admitBrowserRequest_runs urls handler judged permit rest (resumes id rfl)
  | answered id admission outcome => exact answerBody_runs handler admission outcome rest
  | opened id admission turn =>
    exact Runs.idle rfl (by simp [beginBody, HandlerStageV1.held])
  | replied id replies admission limit remaining outcome read =>
    exact Runs.idle rfl (by
      simp [endBody, BrowserHandlersV1.park, BrowserHandlersV1.held, HandlerStageV1.held])
  | finished id _ told other =>
    have idle : stage.held = [] := by
      cases stage with
      | granted judged permit => cases told
      | _ => rfl
    rw [idle]
    exact Runs.idle rfl (by simp [BrowserBoundaryV1.finished])
  | fulfilled id admission => exact settleFulfilled_runs handler admission rest (settles id rfl)
  | undone id => exact Runs.idle rfl (by simp)
  | dropped id _ permit own told =>
    have idle : stage.held = [] := by
      cases stage with
      | granted judged permit => cases told
      | _ => rfl
    rw [idle]
    exact releaseDropped_runs handler rest

variable {urls : UrlClassV1} {event : BrowserEventV1}

theorem step_runs (untangled : Untangled boundary event)
    (steps : boundary.step urls event = some after) : Runs [] boundary after := by
  cases browserStep_cases steps with
  | paused paused opened => exact handleFetchPaused_runs urls paused boundary
  | malformed => exact Advances.rejectQuietWaiters _ _
  | handler actor taken runs =>
    obtain ⟨member, named⟩ := takeHandler_mem taken
    refine Runs.taken taken (runs.runs ?_ ?_)
    · intro id same
      subst same
      cases actor
      exact untangled _ member named
    · intro id same
      subst same
      cases actor
      exact untangled _ member named
  | loadingEnded networkId =>
    have released := Advances.releaseAll boundary.traffic boundary.handlers.held
      fun admission => admission.networkId == some networkId
    simpa [Runs] using released
  | scopes actor moves => exact Runs.idle rfl rfl
  | waits maximumInFlight quietMs => exact waitForQuiet_runs maximumInFlight quietMs boundary
  | unwaits actor id => exact withoutWaiter_runs id boundary
  | transition capability options =>
    simp only [BrowserBoundaryV1.transition]
    split <;> exact Runs.idle rfl rfl
  | close => exact close_runs untangled

/-! Nothing is admitted any more once the boundary is closed. -/

variable {traffic : BrowserTrafficV1}

theorem releaseVanishedRequest_empty (requestId : Units) (empty : traffic.admitted = []) :
    (traffic.releaseVanishedRequest requestId).admitted = [] := by
  simp [BrowserTrafficV1.releaseVanishedRequest, empty, OrderedMap.get?]

@[simp] theorem followRedirectHop_closed (paused : BrowserFetchPausedV1)
    (boundary : BrowserBoundaryV1) :
    (followRedirectHop paused boundary).1.closed = boundary.closed := by
  cases redirected : paused.redirectedFrom with
  | none => simp [followRedirectHop, redirected]
  | some requestId =>
    cases found : OrderedMap.get? boundary.traffic.admitted requestId with
    | none => simp [followRedirectHop, redirected, found]
    | some admission =>
      simp only [followRedirectHop, redirected, found]
      split_ifs <;> rfl

theorem handleBrowserRequestStage_closed (urls : UrlClassV1) (handler : PausedHandlerV1)
    (boundary : BrowserBoundaryV1) :
    (handleBrowserRequestStage urls handler boundary).closed = boundary.closed := by
  have followed := followRedirectHop_closed handler.paused { boundary with
    traffic := supersedeEarlierAttempts handler.paused boundary.traffic }
  simp only [handleBrowserRequestStage]
  split
  · next next error redirected =>
    rw [redirected] at followed
    exact followed
  · next next redirected =>
    rw [redirected] at followed
    split <;> exact followed

theorem handleResponseStage_closed (urls : UrlClassV1) (handler : PausedHandlerV1) (status : Nat)
    (boundary : BrowserBoundaryV1) :
    (handleResponseStage urls handler status boundary).closed = boundary.closed := by
  simp only [handleResponseStage]
  split
  · rfl
  · split_ifs
    · simp only [continueRedirect]
      split_ifs <;> rfl
    · rfl

theorem handleFetchPaused_closed (urls : UrlClassV1) (paused : BrowserFetchPausedV1)
    (boundary : BrowserBoundaryV1) :
    (boundary.handleFetchPaused urls paused).closed = boundary.closed := by
  simp only [BrowserBoundaryV1.handleFetchPaused]
  split
  · rfl
  · rfl
  · rw [handleBrowserRequestStage_closed]
  · rw [handleResponseStage_closed]

variable {handler : PausedHandlerV1} {rest : BrowserBoundaryV1} {stage : HandlerStageV1}

theorem HandlerRun.idle (runs : HandlerRun urls handler rest event stage after) :
    after.closed = rest.closed ∧
      (rest.closed = true → rest.traffic.admitted = [] → after.traffic.admitted = []) := by
  cases runs with
  | acquireFailed id cancelled message judged =>
    exact ⟨rfl, fun _ empty => releaseVanishedRequest_empty _ empty⟩
  | admitted id judged permit =>
    simp only [admitBrowserRequest]
    split_ifs
    · exact ⟨rfl, fun _ empty => empty⟩
    · cases valid : validatePostAcquireState judged rest with
      | some error => exact ⟨rfl, fun _ empty => releaseVanishedRequest_empty _ empty⟩
      | none =>
        refine ⟨rfl, fun closed _ => ?_⟩
        -- A closed boundary refuses a request that has just been granted its permit.
        simp [validatePostAcquireState, closed] at valid
  | answered id admission outcome =>
    cases outcome with
    | body bytes => exact ⟨rfl, fun _ empty => empty⟩
    | failed error => exact ⟨rfl, fun _ empty => releaseVanishedRequest_empty _ empty⟩
    | dropped => exact ⟨rfl, fun _ empty => releaseVanishedRequest_empty _ empty⟩
  | fulfilled id admission =>
    refine ⟨rfl, fun _ empty => ?_⟩
    simp [settleFulfilled, BrowserTrafficV1.settleAdmission, BrowserTrafficV1.notifyActivity,
      OrderedMap.delete, empty]
  | dropped id _ permit own told =>
    exact ⟨rfl, fun _ empty => releaseVanishedRequest_empty _ empty⟩
  | _ => exact ⟨rfl, fun _ empty => empty⟩

/-- Nothing is admitted once the boundary is closed. -/
def ClosedIdle (boundary : BrowserBoundaryV1) : Prop :=
  boundary.closed = true → boundary.traffic.admitted = []

theorem step_closedIdle (steps : boundary.step urls event = some after) (idle : ClosedIdle boundary) :
    ClosedIdle after := by
  cases browserStep_cases steps with
  | paused paused opened =>
    intro closed
    rw [handleFetchPaused_closed, opened] at closed
    cases closed
  | handler actor taken runs =>
    obtain ⟨same, empty⟩ := runs.idle
    intro closed
    rw [same] at closed
    exact empty closed (idle closed)
  | loadingEnded networkId =>
    intro closed
    have empty : boundary.traffic.admitted = [] := idle closed
    simp [BrowserTrafficV1.releaseAll, empty]
  | waits maximumInFlight quietMs =>
    simp only [BrowserBoundaryV1.waitForQuiet]
    split_ifs <;> exact idle
  | transition capability options =>
    simp only [BrowserBoundaryV1.transition]
    split <;> exact idle
  | close => exact fun _ => rfl
  | malformed => exact idle
  | scopes actor moves => exact idle
  | unwaits actor id => exact idle

/-! A handler settles no other attempt than its own. -/

variable {entry : Units × AdmittedBrowserRequestV1}

variable {requestId : Units}

theorem removed_of_delete {held : List Nat} (accounted : Accounted traffic held)
    (member : entry ∈ traffic.admitted)
    (removed : entry ∉ OrderedMap.delete traffic.admitted requestId) :
    OrderedMap.get? traffic.admitted requestId = some entry.2 := by
  by_cases same : entry.1 = requestId
  · rw [← same]
    exact accounted.get?_of_mem member
  · have kept : OrderedMap.get? (OrderedMap.delete traffic.admitted requestId) entry.1 =
        some entry.2 := by
      rw [OrderedMap.get?_delete_of_ne _ same]
      exact accounted.get?_of_mem member
    exact absurd (OrderedMap.mem_of_get? kept) removed

theorem removed_of_releaseVanished {held : List Nat} (accounted : Accounted traffic held)
    (member : entry ∈ traffic.admitted)
    (removed : entry ∉ (traffic.releaseVanishedRequest requestId).admitted) :
    OrderedMap.get? traffic.admitted requestId = some entry.2 := by
  cases found : OrderedMap.get? traffic.admitted requestId with
  | none =>
    simp only [BrowserTrafficV1.releaseVanishedRequest, found] at removed
    exact absurd member removed
  | some admission =>
    simp only [BrowserTrafficV1.releaseVanishedRequest, found,
      BrowserTrafficV1.notifyActivity] at removed
    rw [← found]
    exact removed_of_delete accounted member removed

/-- A step settles nothing but the request of the handler that takes it, if that one has been
admitted. -/
def SettlesOwn (boundary : BrowserBoundaryV1) (event : BrowserEventV1)
    (after : BrowserBoundaryV1) : Prop :=
  ∀ entry ∈ boundary.handlers.suspended, event.actor = some entry.1.id →
    ∀ permit, entry.2.own = some permit →
      ∀ admission ∈ boundary.traffic.admitted, admission ∉ after.traffic.admitted →
        admission.2.permit = permit

theorem HandlerRun.settlesOwn {held : List Nat} {permit : Nat}
    (runs : HandlerRun urls handler rest event stage after) (own : stage.own = some permit)
    (accounted : Accounted rest.traffic held)
    (resumes : ∀ id, event = .resumed id → ResumesAlone rest handler stage)
    (settles : ∀ id, event = .commandDone id → SettlesAlone rest handler stage)
    (releases : ∀ id, event = .commandRejected id → ReleasesAlone rest handler stage)
    (member : entry ∈ rest.traffic.admitted) (removed : entry ∉ after.traffic.admitted) :
    entry.2.permit = permit := by
  cases runs with
  | acquired id judged => cases own
  | acquireFailed id cancelled message judged => cases own
  | admitted id judged granted => cases own
  | answered id admission outcome =>
    cases own
    have alone := resumes id rfl
    cases outcome with
    | body bytes => exact absurd member removed
    | failed error => exact alone rfl _ (removed_of_releaseVanished accounted member removed)
    | dropped => exact alone rfl _ (removed_of_releaseVanished accounted member removed)
  | fulfilled id admission =>
    cases own
    obtain ⟨found, taken, same⟩ := settles id rfl
    have gone := removed_of_delete accounted member removed
    rw [taken] at gone
    cases gone
    exact same
  | dropped id _ own' own told =>
    exact releases id rfl permit ‹_› _ (removed_of_releaseVanished accounted member removed)
  | _ => exact absurd member removed

/-- What the permits and the handlers of a boundary have in every state. -/
structure AdmissionsHold (boundary : BrowserBoundaryV1) : Prop where
  accounted : Accounted boundary.traffic boundary.handlers.held
  idle : ClosedIdle boundary

theorem installed_admissions (starts : (browserMachine urls).starts boundary) :
    AdmissionsHold boundary := by
  obtain ⟨capability, options, mainFrameId, installed⟩ := starts
  simp only [installBrowserNetworkBoundary] at installed
  split at installed
  · cases installed
  · cases installed
    exact {
      accounted := {
        counted := rfl
        distinct := List.nodup_nil
        keyed := by simp
        permits := by simp [BrowserTrafficV1.releasedPermits, BrowserTrafficV1.admittedPermits,
          BrowserHandlersV1.held]
        timers := by simp }
      idle := fun _ => rfl }

/-- Whether something is under way at the boundary: a request, a scope or a wait. -/
def BrowserBoundaryV1.Active (boundary : BrowserBoundaryV1) : Prop :=
  boundary.traffic.admitted ≠ [] ∨
    (∃ entry ∈ boundary.handlers.suspended, entry.1.counted = true) ∨
    boundary.scopes.free = false ∨ boundary.traffic.quietWaiters ≠ []

theorem transitionRefusal_isSome_iff {capability : BrowserNetworkCapabilityV1}
    (counted : boundary.traffic.activeRequests = boundary.traffic.admitted.length)
    (pending : boundary.handlers.pendingAdmissions = boundary.handlers.suspended.countP (·.1.counted))
    (healthy : boundary.fatal = none) (declared : capability.browserResources.isSome = true) :
    (boundary.transitionRefusal capability).isSome = true ↔ boundary.Active := by
  have present : capability.browserResources.isNone = false := by
    cases found : capability.browserResources with
    | none => simp [found] at declared
    | some policy => rfl
  have handlers : boundary.handlers.pendingAdmissions ≠ 0 ↔
      ∃ entry ∈ boundary.handlers.suspended, entry.1.counted = true := by
    rw [pending, ← List.countP_pos_iff]
    omega
  have busy : boundary.Active ↔ (boundary.traffic.admitted.length ≠ 0 ∨
      boundary.traffic.activeRequests ≠ 0 ∨ boundary.scopes.free = false ∨
      boundary.traffic.quietWaiters.length ≠ 0 ∨ boundary.handlers.pendingAdmissions ≠ 0) := by
    rw [BrowserBoundaryV1.Active, ← handlers, counted]
    simp only [ne_eq, List.length_eq_zero_iff, Int.natCast_eq_zero]
    tauto
  rw [busy]
  simp only [BrowserBoundaryV1.transitionRefusal, healthy, present, Option.isSome_none,
    Bool.false_eq_true, if_false]
  split_ifs with active
  · simpa using active
  · simpa using active

/-- What holds between two steps of a boundary whose handlers meet no other attempt. -/
structure AdmissionsSettledOnce (urls : UrlClassV1) (boundary : BrowserBoundaryV1) : Prop where
  /-- The count in flight is the number of admitted requests. -/
  inFlight : boundary.traffic.activeRequests = boundary.traffic.admitted.length
  /-- The permits not released are those of admitted requests and those just granted. -/
  outstanding : (boundary.traffic.releasedPermits ++ boundary.traffic.admittedPermits ++
    boundary.handlers.held).Perm (List.range boundary.traffic.nextPermit)
  /-- No permit is released twice. -/
  once : boundary.traffic.releasedPermits.Nodup
  /-- The step that removes an entry releases its permit. -/
  removed : ∀ event after, Untangled boundary event → boundary.step urls event = some after →
    ∀ entry ∈ boundary.traffic.admitted, entry ∉ after.traffic.admitted →
      entry.2.permit ∉ boundary.traffic.releasedPermits ∧
        entry.2.permit ∈ after.traffic.releasedPermits
  /-- Settling one admission removes no other. -/
  own : ∀ event after, Untangled boundary event → boundary.step urls event = some after →
    SettlesOwn boundary event after
  /-- After the boundary was closed and its handlers ended, every permit was given back. -/
  returned : boundary.closed = true → boundary.handlers.suspended = [] →
    boundary.traffic.releasedPermits.Perm (List.range boundary.traffic.nextPermit)
  /-- A wait for quiet ends with no more requests unsettled than it allows. -/
  quiet : ∀ id after, boundary.step urls (.quietElapsed id) = some after →
    ∃ waiter ∈ boundary.traffic.quietWaiters, waiter.id = id ∧
      boundary.traffic.admitted.length ≤ waiter.maximumInFlight
  /-- Another policy is refused just while something is active. -/
  transition : ∀ capability : BrowserNetworkCapabilityV1, boundary.fatal = none →
    capability.browserResources.isSome = true →
      ((boundary.transitionRefusal capability).isSome = true ↔ boundary.Active)

theorem reached_admissions (reached : (browserMachine urls).Reaches Untangled boundary) :
    AdmissionsHold boundary :=
  @Machine.Reaches.invariant _ _ (browserMachine urls) Untangled AdmissionsHold
    (fun _ starts => installed_admissions starts)
    (fun _ _ _ untangled steps hold => {
      accounted := (step_runs untangled steps hold.accounted).1
      idle := step_closedIdle steps hold.idle }) _ reached

theorem step_settlesOwn (accounted : Accounted boundary.traffic boundary.handlers.held)
    (hold : HandlersHold boundary.handlers) (untangled : Untangled boundary event)
    (steps : boundary.step urls event = some after) : SettlesOwn boundary event after := by
  intro entry member actor permit own admission admitted removed
  cases browserStep_cases steps with
  | @handler _ id handler stage others _ acts taken runs =>
    obtain ⟨inside, named⟩ := takeHandler_mem taken
    rw [acts, Option.some.injEq] at actor
    -- The handler that was taken is the one with the identity of the event.
    have same := List.inj_on_of_nodup_map hold.distinct inside member (named.trans actor)
    subst same
    have mine : ∀ other, event.actor = some other → handler.id = other := by
      intro other acting
      rw [acts] at acting
      cases acting
      exact named
    refine runs.settlesOwn own accounted ?_ ?_ ?_ admitted removed
    · intro id resumes
      subst resumes
      exact untangled _ inside (mine id rfl)
    · intro id settles
      subst settles
      exact untangled _ inside (mine id rfl)
    · intro id releases
      subst releases
      exact untangled _ inside (mine id rfl)
  | scopes acts moves => exact absurd admitted removed
  | unwaits acts id => exact absurd admitted removed
  | _ => cases actor

/-- The page of a shop. -/
def shopUrl : Units := ascii "https://shop.example/"

/-- A URL class that knows the page of the shop. -/
def shopUrlClass : UrlClassV1 where
  parse text :=
    if text = shopUrl then some {
      protocol := ascii "https:"
      username := []
      password := []
      origin := ascii "https://shop.example"
      pathname := ascii "/"
      search := []
      hash := [] }
    else none
  pathnameOf := some

/-- The rule for the documents of the shop. -/
def shopRule (ruleId : Units) (phase : BrowserEgressPhaseV1) : BrowserEgressRuleV1 where
  ruleId
  phase
  origin := ascii "https://shop.example"
  methods := [.get]
  route := { path := .exact (ascii "/"), query := .none }
  resourceTypes := [.document]
  maxRequests := 2
  maxEncodedRequestBodyBytes := 0
  maxEncodedResponseBytes := 1000

/-- A policy with one rule. -/
def shopPolicy (rule : BrowserEgressRuleV1) : BrowserResourcePolicyV1 where
  egressRules := [rule]
  maxRequestsPerBrowserTask := 4
  maxEncodedRequestBodyBytesPerBrowserTask := 0
  maxEncodedResponseBytesPerBrowserTask := 1000
  maxProxyWireBytesPerBrowserTask := 10000
  maxSingleRequestBodyBytes := 0
  maxSingleResponseBytes := 1000

/-- A capability with one rule for the shop. -/
def shopCapability (rule : BrowserEgressRuleV1) : BrowserNetworkCapabilityV1 where
  browserResources := some (shopPolicy rule)
  originTrafficPolicies := [{
    origin := ascii "https://shop.example"
    maxRedirectHops := 5
    traffic := localPolicy 1 one_inRange }]

/-- The options of a task of the shop. -/
def shopOptions : BrowserBoundaryOptionsV1 where
  maxTargetRequests := 4
  signal := 0
  workloadId := none

/-- The boundary of a page that has just been opened for one rule. -/
def shopBoundary (rule : BrowserEgressRuleV1) : BrowserBoundaryV1 where
  current := {
    capability := shopCapability rule
    policy := shopPolicy rule
    options := shopOptions }
  handlerState := {
    capability := shopCapability rule
    policy := shopPolicy rule
    options := shopOptions }
  mainFrameId := none

theorem shopBoundary_installed (rule : BrowserEgressRuleV1) :
    installBrowserNetworkBoundary (shopCapability rule) shopOptions none = .ok (shopBoundary rule) :=
  rfl

/-- The page of the shop, paused as a request or with the status of its response. -/
def shopPaused (responseStatus : Option Nat) : BrowserFetchPausedV1 where
  requestId := ascii "interception-1"
  url := shopUrl
  method := ascii "GET"
  resourceType := ascii "document"
  cdpResourceType := ascii "Document"
  frameId := none
  networkId := some (ascii "network-1")
  redirectedFrom := none
  responseStatus
  responseError := none
  responseHeaders := []
  requestBody := { postData := none, hasPostData := false, postDataEntries := none }
  preflightMethod := none

/-- The page is admitted. -/
def admitPage : List BrowserEventV1 :=
  [.requestPaused (shopPaused none), .acquired 0, .resumed 0, .commandDone 0]

/-- Its response is read and handed to the browser, which reports the end of the load before it
replies. -/
def endLoadFirst : List BrowserEventV1 :=
  [.requestPaused (shopPaused (some 200)), .bodyOpened 1,
    .bodyReplied 1 [.chunk [] none, .chunk [104, 105] (some true)], .resumed 1,
    .loadingEnded (ascii "network-1"), .commandDone 1]

end Klura
