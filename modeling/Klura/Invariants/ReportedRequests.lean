import Klura.Browser.Strategies
import Klura.Invariants.BoundaryLimits

/-! What an execution in a browser reports of the requests that its boundary admitted. -/

namespace Klura

open StrictJson

/-! Between two policies the boundary only adds to its admissions. -/

variable {after : BrowserBoundaryV1} {event : BrowserEventV1}

theorem HandlerRun.admissions {urls : UrlClassV1} {handler : PausedHandlerV1}
    {rest : BrowserBoundaryV1} {stage : HandlerStageV1}
    (runs : HandlerRun urls handler rest event stage after) :
    rest.budgets.admissions.length ≤ after.budgets.admissions.length := by
  cases runs with
  | admitted id judged permit =>
    simp only [admitBrowserRequest]
    split_ifs
    · exact Nat.le_refl _
    · split
      · exact Nat.le_refl _
      · simp [BrowserBudgetsV1.charge]
  | answered id admission outcome => cases outcome <;> exact Nat.le_refl _
  | replied id replies admission limit remaining outcome read =>
    cases outcome <;> exact Nat.le_refl _
  | _ => exact Nat.le_refl _

variable {boundary : BrowserBoundaryV1}

theorem step_admissions {urls : UrlClassV1} (steps : boundary.step urls event = some after)
    (scopes : ScopesHold boundary.scopes) (other : event.isTransition = false) :
    boundary.budgets.admissions.length ≤ after.budgets.admissions.length := by
  cases browserStep_cases steps with
  | paused paused opened => rw [(handleFetchPaused_adds urls paused boundary scopes).budgets]
  | handler actor taken runs => exact runs.admissions
  | waits maximumInFlight quietMs =>
    simp only [BrowserBoundaryV1.waitForQuiet]
    split_ifs <;> exact Nat.le_refl _
  | transition capability options => simp [BrowserEventV1.isTransition] at other
  | _ => exact Nat.le_refl _

/-- A task whose boundary has counted just what it admitted since the task began. -/
def Tracks (urls : UrlClassV1) (task : BrowserTaskV1) : Prop :=
  match task.boundary with
  | none => task.admitted = 0
  | some boundary => (browserMachine urls).Reaches (fun _ _ => True) boundary ∧
      task.admitted = boundary.budgets.admissions.length

namespace Tracks

variable {urls : UrlClassV1} {task : BrowserTaskV1}

theorem targetRequests (tracks : Tracks urls task) : task.targetRequests = task.admitted := by
  unfold Tracks at tracks
  cases found : task.boundary with
  | none =>
    rw [found] at tracks
    simp [BrowserTaskV1.targetRequests, found, tracks]
  | some boundary =>
    rw [found] at tracks
    have counted := (reached_within tracks.1).budgets.counted
    simp [BrowserTaskV1.targetRequests, found, counted, tracks.2]

theorem observe (tracks : Tracks urls task) {event : BrowserEventV1}
    (other : event.isTransition = false) : Tracks urls (task.observe urls event) := by
  unfold BrowserTaskV1.observe
  cases found : task.boundary with
  | none => exact tracks
  | some boundary =>
    simp only
    cases steps : boundary.step urls event with
    | none => exact tracks
    | some after =>
      have tracked := tracks
      unfold Tracks at tracked
      rw [found] at tracked
      have more := step_admissions steps (reached_within tracked.1).scopes other
      refine ⟨tracked.1.next trivial steps, ?_⟩
      simp only
      omega

theorem during (tracks : Tracks urls task) (operation : PageOperationV1)
    (stage : PublicExecutionStageV1) : Tracks urls (operation.during urls stage task) := by
  have seen : ∀ events : List BrowserEventV1, (∀ event ∈ events, event.isTransition = false) →
      ∀ task, Tracks urls task → Tracks urls (events.foldl (BrowserTaskV1.observe urls) task) := by
    intro events
    -- The induction follows the events in the order in which they happen.
    induction events with
    | nil => exact fun _ _ tracks => tracks
    | cons event rest ih =>
      intro own task tracks
      exact ih (fun later member => own later (List.mem_cons_of_mem _ member)) _
        (tracks.observe (own event List.mem_cons_self))
  exact seen operation.traffic operation.own { task with stage } tracks

theorem perform (tracks : Tracks urls task) (operations : StagedOperationsV1) :
    Tracks urls (perform urls operations task).2 := by
  -- The induction follows the operations up to the first that fails.
  induction operations generalizing task with
  | nil => exact tracks
  | cons staged rest ih =>
    obtain ⟨stage, operation⟩ := staged
    have next := tracks.during operation stage
    simp only [Klura.perform]
    split
    · exact next
    · exact ih next

end Tracks

variable {fails : ThrownV1 → BrowserTaskV1 → Prop}

@[simp] theorem wp_awaiting {urls : UrlClassV1} {returns : Unit → BrowserTaskV1 → Prop}
    {task : BrowserTaskV1} (operations : StagedOperationsV1) :
    Program.wp (awaiting urls operations) returns fails task ↔
      match perform urls operations task with
      | (none, after) => returns () after
      | (some thrown, after) => fails thrown after := by
  unfold Program.wp awaiting
  rcases perform urls operations task with ⟨_ | thrown, after⟩ <;> rfl

variable {returns : PublicHttpResponseV1 → BrowserTaskV1 → Prop}

@[simp] theorem wp_respond {task : BrowserTaskV1} (status : Nat) :
    Program.wp (respond status) returns fails task ↔
      returns ⟨status, task.targetRequests, task.deniedResources⟩ task := by
  simp [respond]

/-! The count that an error is reported with. -/

/-- The count that an error carries itself. -/
def ThrownV1.carried : ThrownV1 → Option Nat
  | .publicHttp error => some error.targetRequests
  | _ => none

@[simp] theorem ThrownV1.carried_publicHttp (error : PublicHttpExecutionError) :
    (ThrownV1.publicHttp error).carried = some error.targetRequests := rfl

/-- Whether an end is reported with the requests that were admitted: an error that carries a count
itself has to carry that one, unless the execution is interrupted, and after the handler counted
the requests of any other end none may be admitted. -/
structure CountsRight (interrupted : Bool) (carried : Option Nat) (counted last : Nat) : Prop where
  own : ∀ count, carried = some count → interrupted = false → count = last
  read : carried = none ∨ interrupted = true → counted = last

/-- The error that a handler throws is reported with the requests just when its end is right. -/
theorem CatchClauseV1.catchThrown_counts (clause : CatchClauseV1) (task : BrowserTaskV1)
    (thrown : ThrownV1) (last : Nat) (late : clause.timedOut task = true → clause.aborted task = true) :
    (clause.catchThrown task thrown).targetRequests = last ↔
      CountsRight (clause.aborted task) thrown.carried task.targetRequests last := by
  have counts : (clause.catchThrown task thrown).targetRequests =
      if clause.aborted task then task.targetRequests
      else thrown.carried.getD task.targetRequests := by
    unfold CatchClauseV1.catchThrown
    cases aborted : clause.aborted task with
    | true => split <;> rfl
    | false =>
      have timely : clause.timedOut task = false := by
        cases expired : clause.timedOut task with
        | false => rfl
        | true => simp [late expired] at aborted
      -- An error that is explained by a refusal is counted again as any other.
      cases thrown <;> cases explained : clause.verdict task <;>
        simp [timely, ThrownV1.carried, BrowserTaskV1.recount]
  rw [counts]
  constructor
  · intro same
    constructor
    · intro count carries running
      simpa [carries, running] using same
    · rintro (plain | aborted)
      · simpa [plain] using same
      · simpa [aborted] using same
  · intro right
    cases aborted : clause.aborted task with
    | true => simpa using right.read (.inr aborted)
    | false =>
      cases carries : thrown.carried with
      | none => simpa using right.read (.inl carries)
      | some count => simpa using right.own count carries aborted

/-! Executions in a bounded page. -/

/-- An execution reports, in its response or in its error, the requests that were admitted. -/
def Reports (execution : BrowserProgram PublicHttpResponseV1) (task : BrowserTaskV1) : Prop :=
  execution.wp (fun response last => response.targetRequests = last.admitted)
    (fun thrown last => ∀ count, thrown.carried = some count → count = last.admitted) task

/-- How what is awaited in a bounded page ends. -/
def pageEnd (urls : UrlClassV1) (capability : BrowserNetworkCapabilityV1)
    (options : BrowserBoundaryOptionsV1) (beforeStart : Units) (first : PublicExecutionStageV1)
    (operations : StagedOperationsV1) (task : BrowserTaskV1) : Option ThrownV1 × BrowserTaskV1 :=
  match perform urls [(first, throwIfAborted (·.pageAborted) beforeStart)]
      { task with pageExpired := false } with
  | (some thrown, after) => (some thrown, after)
  | (none, after) =>
    match after.boundary with
    | none => perform urls operations after
    | some boundary =>
      match boundary.transitionRefusal capability with
      | some refused => (some (.publicHttp refused), after)
      | none => perform urls operations
          { after with boundary := some (boundary.transition capability options) }

variable {capability : BrowserNetworkCapabilityV1} {options : BrowserBoundaryOptionsV1}

variable {beforeStart : Units} {first : PublicExecutionStageV1} {clause : CatchClauseV1}
  {operations : StagedOperationsV1}

/-- An execution in a bounded page ends as what it awaits does, with its handler's error. -/
theorem wp_executeInBoundedPage {urls : UrlClassV1} {refusal : Option ThrownV1} {status : Nat}
    {task : BrowserTaskV1} :
    (executeInBoundedPage urls refusal capability options beforeStart first clause operations
      status).wp returns fails task ↔
      match refusal with
      | some thrown => fails thrown task
      | none =>
        match pageEnd urls capability options beforeStart first operations task with
        | (none, after) => returns ⟨status, after.targetRequests, after.deniedResources⟩ after
        | (some thrown, after) => fails (.publicHttp (clause.catchThrown after thrown)) after := by
  unfold executeInBoundedPage pageEnd
  cases refusal with
  | some thrown => simp
  | none =>
    simp only [Program.wp_bind, Program.wp_modify, Program.wp_tryCatch, wp_awaiting, transition,
      Program.wp_get, Program.wp_throw]
    rcases perform urls [(first, throwIfAborted (·.pageAborted) beforeStart)]
      { task with pageExpired := false } with ⟨_ | thrown, after⟩
    · simp only
      cases after.boundary with
      | none =>
        simp only [Program.wp_pure, Program.wp_bind, wp_awaiting, wp_respond, Program.wp_get,
          Program.wp_throw]
      | some boundary =>
        simp only
        cases boundary.transitionRefusal capability with
        | some refused => simp
        | none =>
          simp only [Program.wp_set, Program.wp_bind, wp_awaiting, wp_respond, Program.wp_get,
            Program.wp_throw]
    · rfl

/-- A handler that asks about the deadline and the signal of the work in a page. -/
structure CatchClauseV1.OfPage (clause : CatchClauseV1) : Prop where
  timedOut : clause.timedOut = (·.pageExpired)
  aborted : clause.aborted = (·.pageAborted)

/-- A handler that asks about the deadline and the signal of an execution with its own browser. -/
structure CatchClauseV1.OfBrowser (clause : CatchClauseV1) : Prop where
  timedOut : clause.timedOut = (·.expired)
  aborted : clause.aborted = (·.aborted)

theorem CatchClauseV1.OfPage.counts {clause : CatchClauseV1} (ofPage : clause.OfPage)
    (task : BrowserTaskV1) (thrown : ThrownV1) (last : Nat) :
    (clause.catchThrown task thrown).targetRequests = last ↔
      CountsRight task.pageAborted thrown.carried task.targetRequests last := by
  have counts := clause.catchThrown_counts task thrown last
    (by simp +contextual [ofPage.timedOut, ofPage.aborted, BrowserTaskV1.pageAborted])
  rwa [ofPage.aborted] at counts

theorem CatchClauseV1.OfBrowser.counts {clause : CatchClauseV1} (ofBrowser : clause.OfBrowser)
    (task : BrowserTaskV1) (thrown : ThrownV1) (last : Nat) :
    (clause.catchThrown task thrown).targetRequests = last ↔
      CountsRight task.aborted thrown.carried task.targetRequests last := by
  have counts := clause.catchThrown_counts task thrown last
    (by simp +contextual [ofBrowser.timedOut, ofBrowser.aborted, BrowserTaskV1.aborted])
  rwa [ofBrowser.aborted] at counts

/-- A task that begins in a page whose boundary is there already. -/
def startInPage (stage : PublicExecutionStageV1) (boundary : BrowserBoundaryV1)
    (violation : Option PublicHttpExecutionError) (cancelled : Bool) : BrowserTaskV1 where
  boundary := some boundary
  violation
  cancelled
  stage

/-- When an execution in a bounded page reports what was admitted: one that is cancelled before it
begins, when the boundary has counted nothing for the policy before; one that the boundary refuses
to begin, when the refusal counts nothing; and any other, unless an error that carries another
count ends it before its deadline and without its being cancelled. -/
structure PageCounts (urls : UrlClassV1) (capability : BrowserNetworkCapabilityV1)
    (options : BrowserBoundaryOptionsV1) (operations : StagedOperationsV1)
    (boundary : BrowserBoundaryV1) (task : BrowserTaskV1) : Prop where
  cancelled : task.cancelled = true → boundary.budgets.targetRequests = 0
  refused : ∀ refused, task.cancelled = false →
    boundary.transitionRefusal capability = some refused → refused.targetRequests = 0
  ended : ∀ error last, task.cancelled = false → boundary.transitionRefusal capability = none →
    perform urls operations
      { task with boundary := some (boundary.transition capability options) } =
        (some (.publicHttp error), last) → last.pageAborted = false →
          error.targetRequests = last.admitted

theorem transition_tracks {urls : UrlClassV1} {task : BrowserTaskV1}
    (reached : (browserMachine urls).Reaches (fun _ _ => True) boundary)
    (taken : boundary.transitionRefusal capability = none) (fresh : task.admitted = 0) :
    Tracks urls { task with boundary := some (boundary.transition capability options) } := by
  have steps : (browserMachine urls).step boundary (.transition capability options)
      (boundary.transition capability options) := rfl
  refine ⟨reached.next trivial steps, ?_⟩
  -- A boundary that refuses nothing has a policy to take, so its budgets are new.
  have declared : capability.browserResources.isSome := by
    cases resources : capability.browserResources with
    | some policy => rfl
    | none =>
      simp only [BrowserBoundaryV1.transitionRefusal, resources] at taken
      split_ifs at taken with failed undeclared
      · simp [taken] at failed
      · simp at undeclared
  obtain ⟨policy, resources⟩ := Option.isSome_iff_exists.mp declared
  simp [BrowserBoundaryV1.transition, taken, resources, fresh]

theorem countsRight_iff {interrupted : Bool} {thrown : ThrownV1} {last : Nat} :
    CountsRight interrupted thrown.carried last last ↔
      ∀ error, thrown = .publicHttp error → interrupted = false → error.targetRequests = last := by
  constructor
  · intro right error same running
    exact right.own _ (by simp [same, ThrownV1.carried]) running
  · intro right
    refine ⟨fun count carries running => ?_, fun _ => rfl⟩
    cases thrown with
    | publicHttp error =>
      cases carries
      exact right error rfl running
    | _ => cases carries

/-- An execution in a bounded page that is begun reports what was admitted just when it counts. -/
theorem executeInBoundedPage_reports {urls : UrlClassV1} {status : Nat}
    {violation : Option PublicHttpExecutionError} {cancelled : Bool} (ofPage : clause.OfPage)
    (reached : (browserMachine urls).Reaches (fun _ _ => True) boundary) :
    Reports (executeInBoundedPage urls none capability options beforeStart first clause operations
      status) (startInPage first boundary violation cancelled) ↔
      PageCounts urls capability options operations boundary
        (startInPage first boundary violation cancelled) := by
  unfold Reports
  rw [wp_executeInBoundedPage]
  cases cancelled with
  | true =>
    -- The handler asks the boundary, which still counts for the policy before.
    have ends : pageEnd urls capability options beforeStart first operations
        (startInPage first boundary violation true) = (some (.publicHttp {
          code := .cancelled
          message := beforeStart }), startInPage first boundary violation true) := by
      simp [pageEnd, perform, PageOperationV1.during, throwIfAborted, startInPage,
        BrowserTaskV1.pageAborted, BrowserTaskV1.aborted]
    have aborted : (startInPage first boundary violation true).pageAborted = true := rfl
    have counts : (clause.catchThrown (startInPage first boundary violation true)
        (.publicHttp { code := .cancelled, message := beforeStart })).targetRequests = 0 ↔
          boundary.budgets.targetRequests = 0 := by
      rw [ofPage.counts]
      constructor
      · intro right
        exact right.read (.inr aborted)
      · intro none
        exact ⟨fun _ _ running => by simp [aborted] at running, fun _ => none⟩
    simp only [ends, ThrownV1.carried, Option.some.injEq, forall_eq']
    rw [show (startInPage first boundary violation true).admitted = 0 from rfl, counts]
    constructor
    · intro none
      exact ⟨fun _ => none, fun _ running => by simp [startInPage] at running,
        fun _ _ running => by simp [startInPage] at running⟩
    · intro right
      exact right.cancelled rfl
  | false =>
    cases refusal : boundary.transitionRefusal capability with
    | some refused =>
      have ends : pageEnd urls capability options beforeStart first operations
          (startInPage first boundary violation false) = (some (.publicHttp refused),
            startInPage first boundary violation false) := by
        simp [pageEnd, perform, PageOperationV1.during, throwIfAborted, startInPage,
          BrowserTaskV1.pageAborted, BrowserTaskV1.aborted, refusal]
      simp only [ends, ThrownV1.carried, Option.some.injEq, forall_eq']
      rw [ofPage.counts]
      constructor
      · intro right
        refine ⟨by simp [startInPage], fun other _ same => ?_, fun _ _ _ none => ?_⟩
        · cases refusal.symm.trans same
          exact right.own _ rfl rfl
        · cases refusal.symm.trans none
      · intro right
        refine ⟨fun count carries _ => ?_, by simp [ThrownV1.carried, startInPage,
          BrowserTaskV1.pageAborted, BrowserTaskV1.aborted]⟩
        cases carries
        exact right.refused refused rfl refusal
    | none =>
      have ends : pageEnd urls capability options beforeStart first operations
          (startInPage first boundary violation false) = perform urls operations
            { startInPage first boundary violation false with
              boundary := some (boundary.transition capability options) } := by
        simp [pageEnd, perform, PageOperationV1.during, throwIfAborted, startInPage,
          BrowserTaskV1.pageAborted, BrowserTaskV1.aborted, refusal]
      have tracked : Tracks urls (perform urls operations
          { startInPage first boundary violation false with
            boundary := some (boundary.transition capability options) }).2 :=
        Tracks.perform (transition_tracks reached refusal rfl) operations
      rw [ends]
      cases ended : perform urls operations { startInPage first boundary violation false with
          boundary := some (boundary.transition capability options) } with
      | mk failed last =>
      rw [ended] at tracked
      have counted : last.targetRequests = last.admitted := tracked.targetRequests
      cases failed with
      | none =>
        simp only [counted, true_iff]
        refine ⟨by simp [startInPage], fun _ _ same => ?_, fun _ _ _ _ other => ?_⟩
        · cases refusal.symm.trans same
        · cases ended.symm.trans other
      | some thrown =>
        simp only [ThrownV1.carried, Option.some.injEq, forall_eq']
        rw [ofPage.counts, counted, countsRight_iff]
        constructor
        · intro right
          refine ⟨by simp [startInPage], fun _ _ same => ?_, fun error _ _ _ other running => ?_⟩
          · cases refusal.symm.trans same
          · cases ended.symm.trans other
            exact right error rfl running
        · intro right error same running
          subst same
          exact right.ended error last rfl refusal ended running

end Klura
