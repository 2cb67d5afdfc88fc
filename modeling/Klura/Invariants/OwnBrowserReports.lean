import Klura.Invariants.ReportedRequests

/-! What an execution with a browser of its own reports, which closes it after its work. -/

namespace Klura

open StrictJson

/-- How awaiting the end of something goes, in whatever stage the execution is. -/
def windingUp (urls : UrlClassV1) (operation : PageOperationV1) (task : BrowserTaskV1) :
    Option ThrownV1 × BrowserTaskV1 :=
  perform urls [(task.stage, operation)] task

variable {urls : UrlClassV1}

variable {task : BrowserTaskV1}

@[simp] theorem wp_winding {returns : Unit → BrowserTaskV1 → Prop}
    {fails : ThrownV1 → BrowserTaskV1 → Prop} (operation : PageOperationV1) :
    Program.wp (winding urls operation) returns fails task ↔
      match windingUp urls operation task with
      | (none, after) => returns () after
      | (some thrown, after) => fails thrown after :=
  wp_awaiting _

/-- How the work of an execution ends in its page, and whether a handler there took its error. -/
structure WorkEndV1 where
  thrown : Option ThrownV1
  task : BrowserTaskV1
  handled : Bool := false

/-- How an execution with its own browser ends: the error that a handler took last, whether it was
interrupted then, the task whose requests are reported, and the one that is left to be closed. -/
structure OwnEndV1 where
  thrown : Option ThrownV1
  interrupted : Bool
  counted : BrowserTaskV1
  left : BrowserTaskV1

/-- How an execution ends whose work has ended and whose context is closed then. -/
def WorkEndV1.close (urls : UrlClassV1) (closing : PageOperationV1) (work : WorkEndV1) : OwnEndV1 :=
  match windingUp urls closing work.task with
  | (some other, closed) => ⟨some other, closed.aborted, closed, closed⟩
  | (none, closed) =>
    match work.thrown with
    | none => ⟨none, false, work.task, closed⟩
    | some thrown =>
      -- What a handler in the page counted stands unless the execution is interrupted.
      if work.handled && !closed.aborted then
        ⟨some thrown, work.task.pageAborted, work.task, closed⟩
      else ⟨some thrown, closed.aborted, closed, closed⟩

/-- How an execution with its own browser ends up to the end of that browser. -/
def ownEnd (urls : UrlClassV1) (capability : BrowserNetworkCapabilityV1)
    (options : BrowserBoundaryOptionsV1) (browser : OwnBrowserV1) (first : PublicExecutionStageV1)
    (work : BrowserTaskV1 → WorkEndV1) (task : BrowserTaskV1) : OwnEndV1 :=
  match perform urls [
      (first, throwIfAborted (·.aborted) (ascii "caller cancelled before browser launch")),
      (first, browser.launching)] task with
  | (some thrown, started) => ⟨some thrown, started.aborted, started, started⟩
  | (none, started) =>
    match installBrowserNetworkBoundary capability options browser.mainFrameId with
    | .error refused => ⟨some (.publicHttp refused), started.aborted, started, started⟩
    | .ok boundary => (work { started with boundary := some boundary }).close urls browser.closing

/-- When an execution with its own browser reports what was admitted: an error of the last
closings has to carry the number itself, and any other end has to be right for all that was
admitted by then. -/
structure OwnCounts (urls : UrlClassV1) (ending : PageOperationV1) (ended : OwnEndV1) : Prop where
  escaped : ∀ thrown last count, windingUp urls ending ended.left = (some thrown, last) →
    thrown.carried = some count → count = last.admitted
  counted : ∀ last, windingUp urls ending ended.left = (none, last) →
    CountsRight ended.interrupted (ended.thrown.bind ThrownV1.carried) ended.counted.admitted
      last.admitted

/-- A program whose ends, in a page where nothing was admitted yet, are described by a function of
the task it begins with. -/
def WorkEnds (urls : UrlClassV1) (program : BrowserProgram PublicHttpResponseV1)
    (work : BrowserTaskV1 → WorkEndV1) : Prop :=
  ∀ task, Tracks urls task → task.admitted = 0 → program.wp
    (fun response after => Tracks urls after ∧ work task = ⟨none, after, false⟩ ∧
      response.targetRequests = after.admitted)
    (fun thrown after => Tracks urls after ∧ (work task = ⟨some thrown, after, false⟩ ∨
      ∃ inner error, thrown = .publicHttp error ∧ work task = ⟨some inner, after, true⟩ ∧
        ∀ last, error.targetRequests = last ↔
          CountsRight after.pageAborted inner.carried after.admitted last)) task

/-- What is said of every end once the browser is closed. -/
def Finishes (urls : UrlClassV1) (ending : PageOperationV1) (right : Nat → Prop)
    (left : BrowserTaskV1) : Prop :=
  match windingUp urls ending left with
  | (none, last) => right last.admitted
  | (some escaped, last) => ∀ count, escaped.carried = some count → count = last.admitted

variable {ending : PageOperationV1}

theorem ownCounts_iff {ended : OwnEndV1} :
    OwnCounts urls ending ended ↔ Finishes urls ending (CountsRight ended.interrupted
      (ended.thrown.bind ThrownV1.carried) ended.counted.admitted) ended.left := by
  unfold Finishes
  cases wound : windingUp urls ending ended.left with
  | mk escaped last =>
  cases escaped with
  | none =>
    constructor
    · intro counts
      exact counts.counted last wound
    · intro right
      refine ⟨fun _ _ _ other => ?_, fun final other => ?_⟩
      · cases wound.symm.trans other
      · cases wound.symm.trans other
        exact right
  | some thrown =>
    constructor
    · intro counts count
      exact counts.escaped thrown last count wound
    · intro right
      refine ⟨fun _ _ count other carries => ?_, fun _ other => ?_⟩
      · cases wound.symm.trans other
        exact right count carries
      · cases wound.symm.trans other

theorem Finishes.congr {right right' : Nat → Prop} {left : BrowserTaskV1}
    (same : ∀ last, right last ↔ right' last) :
    Finishes urls ending right left ↔ Finishes urls ending right' left := by
  rw [funext fun last => propext (same last)]

theorem perform_unset (operations : StagedOperationsV1) (unset : task.boundary = none) :
    (perform urls operations task).2.boundary = none := by
  have unseen : ∀ (events : List BrowserEventV1) (task : BrowserTaskV1), task.boundary = none →
      (events.foldl (BrowserTaskV1.observe urls) task).boundary = none := by
    intro events
    induction events with
    | nil => exact fun _ unset => unset
    | cons event rest ih =>
      intro task unset
      exact ih _ (by simp [BrowserTaskV1.observe, unset])
  -- The induction follows the operations up to the first that fails.
  induction operations generalizing task with
  | nil => exact unset
  | cons staged rest ih =>
    obtain ⟨stage, operation⟩ := staged
    have next : (operation.during urls stage task).boundary = none := unseen _ _ unset
    simp only [perform]
    split
    · exact next
    · exact ih next

variable {capability : BrowserNetworkCapabilityV1} {options : BrowserBoundaryOptionsV1}
  {clause : CatchClauseV1}

/-- An execution with its own browser reports what was admitted just when its end is right. -/
theorem executeInOwnBrowser_reports {browser : OwnBrowserV1} {first : PublicExecutionStageV1}
    {program : BrowserProgram PublicHttpResponseV1} {work : BrowserTaskV1 → WorkEndV1}
    (ofBrowser : clause.OfBrowser) (ends : WorkEnds urls program work) (tracks : Tracks urls task)
    (unset : task.boundary = none) :
    Reports (executeInOwnBrowser urls none capability options browser first clause program) task ↔
      OwnCounts urls browser.ending
        (ownEnd urls capability options browser first work task) := by
  -- A handled error is right, in the end, just when the end that it handles is.
  have settles : ∀ thrown after, Tracks urls after →
      (Finishes urls browser.ending (fun last =>
        ∀ count, (ThrownV1.publicHttp (clause.catchThrown after thrown)).carried = some count →
          count = last) after ↔
        OwnCounts urls browser.ending ⟨some thrown, after.aborted, after, after⟩) := by
    intro thrown after tracked
    rw [ownCounts_iff]
    refine Finishes.congr fun last => ?_
    simp only [ThrownV1.carried_publicHttp, Option.some.injEq, forall_eq', Option.bind_some]
    rw [ofBrowser.counts, tracked.targetRequests]
  unfold Reports executeInOwnBrowser ownEnd
  simp only [Program.wp_tryFinally, Program.wp_tryCatch, Program.wp_bind, wp_awaiting, wp_winding,
    Program.wp_get, Program.wp_throw]
  have started := tracks.perform [
    (first, throwIfAborted (·.aborted) (ascii "caller cancelled before browser launch")),
    (first, browser.launching)]
  have bare : (perform urls [
      (first, throwIfAborted (·.aborted) (ascii "caller cancelled before browser launch")),
      (first, browser.launching)] task).2.boundary = none := perform_unset _ unset
  cases launched : perform urls [
    (first, throwIfAborted (·.aborted) (ascii "caller cancelled before browser launch")),
    (first, browser.launching)] task with
  | mk failed start =>
  rw [launched] at started bare
  cases failed with
  | some thrown => exact settles thrown start started
  | none =>
    simp only [install]
    cases installed : installBrowserNetworkBoundary capability options browser.mainFrameId with
    | error refused =>
      simp only [Program.wp_throw, Program.wp_bind, Program.wp_get, wp_winding]
      exact settles (.publicHttp refused) start started
    | ok boundary =>
      have unadmitted : start.admitted = 0 := by
        unfold Tracks at started
        rw [bare] at started
        exact started
      have fresh : Tracks urls { start with boundary := some boundary } := by
        refine ⟨.start ⟨capability, options, browser.mainFrameId, installed⟩, ?_⟩
        unfold installBrowserNetworkBoundary at installed
        split at installed
        · cases installed
        · cases installed
          exact unadmitted
      simp only [Program.wp_modify, Program.wp_tryFinally]
      have facts := ends _ fresh unadmitted
      cases ran : program { start with boundary := some boundary } with
      | ok response after =>
        rw [Program.wp_of_ok ran] at facts ⊢
        obtain ⟨tracked, ended, counted⟩ := facts
        rw [ended, wp_winding]
        unfold WorkEndV1.close
        have shut : Tracks urls (windingUp urls browser.closing after).2 := tracked.perform _
        cases closed : windingUp urls browser.closing after with
        | mk other final =>
        rw [closed] at shut
        cases other with
        | some thrown =>
          simp only [Program.wp_bind, Program.wp_get, Program.wp_throw, wp_winding]
          exact settles thrown final shut
        | none =>
          simp only [wp_winding]
          rw [ownCounts_iff]
          refine Finishes.congr fun last => ?_
          rw [counted]
          exact ⟨fun same => ⟨by simp, fun _ => same⟩, fun right => right.read (.inl rfl)⟩
      | error thrown after =>
        rw [Program.wp_of_error ran] at facts ⊢
        obtain ⟨tracked, described⟩ := facts
        rw [wp_winding]
        have shut : Tracks urls (windingUp urls browser.closing after).2 := tracked.perform _
        cases closed : windingUp urls browser.closing after with
        | mk other final =>
        rw [closed] at shut
        -- An error of the closing replaces that of the work.
        cases other with
        | some later =>
          simp only [Program.wp_bind, Program.wp_get, Program.wp_throw, wp_winding]
          rcases described with ended | ⟨inner, error, _, ended, _⟩ <;>
            (rw [ended]; simp only [WorkEndV1.close, closed]; exact settles later final shut)
        | none =>
          simp only [Program.wp_bind, Program.wp_get, Program.wp_throw, wp_winding]
          rcases described with ended | ⟨inner, error, same, ended, right⟩
          · rw [ended]
            simp only [WorkEndV1.close, closed, Bool.false_and, Bool.false_eq_true, if_false]
            exact settles thrown final shut
          · rw [ended]
            simp only [WorkEndV1.close, closed, Bool.true_and]
            cases aborted : final.aborted with
            | true =>
              -- The outer handler counts again, whatever the one in the page had counted.
              have handled := settles inner final shut
              rw [aborted] at handled
              simp only [Bool.not_true, Bool.false_eq_true, if_false]
              rw [← handled]
              show Finishes urls browser.ending (fun last => ∀ count,
                (ThrownV1.publicHttp (clause.catchThrown final thrown)).carried = some count →
                  count = last) final ↔ _
              refine Finishes.congr fun last => ?_
              simp only [ThrownV1.carried_publicHttp, Option.some.injEq, forall_eq']
              rw [ofBrowser.counts, ofBrowser.counts, aborted]
              exact ⟨fun right => ⟨by simp, fun _ => right.read (.inr rfl)⟩,
                fun right => ⟨by simp, fun _ => right.read (.inr rfl)⟩⟩
            | false =>
              simp only [Bool.not_false, if_true]
              rw [ownCounts_iff]
              show Finishes urls browser.ending (fun last => ∀ count,
                (ThrownV1.publicHttp (clause.catchThrown final thrown)).carried = some count →
                  count = last) final ↔ _
              refine Finishes.congr fun last => ?_
              simp only [ThrownV1.carried_publicHttp, Option.some.injEq, forall_eq', Option.bind_some]
              rw [ofBrowser.counts, aborted, ← right last, same]
              simp only [ThrownV1.carried_publicHttp]
              constructor
              · intro counts
                exact counts.own _ rfl rfl
              · intro counts
                exact ⟨by simpa using counts, by simp⟩

/-- How work ends that awaits operations without a handler in the page. -/
def plainEnd (urls : UrlClassV1) (operations : StagedOperationsV1) (task : BrowserTaskV1) :
    WorkEndV1 :=
  ⟨(perform urls operations task).1, (perform urls operations task).2, false⟩

theorem plainEnd_ends (operations : StagedOperationsV1) (status : Nat) :
    WorkEnds urls (do awaiting urls operations; respond status) (plainEnd urls operations) := by
  intro task tracks _
  have tracked := tracks.perform operations
  simp only [Program.wp_bind, wp_awaiting, wp_respond, plainEnd]
  cases ended : perform urls operations task with
  | mk failed after =>
  rw [ended] at tracked
  cases failed with
  | none => exact ⟨tracked, rfl, tracked.targetRequests⟩
  | some thrown => exact ⟨tracked, .inl rfl⟩

/-- How a page script ends that runs in a page of its own and has its guard asked after it. -/
def scriptEnd (urls : UrlClassV1) (capability : BrowserNetworkCapabilityV1)
    (options : BrowserBoundaryOptionsV1) (operations : StagedOperationsV1) (task : BrowserTaskV1) :
    WorkEndV1 :=
  match pageEnd urls capability options (ascii "caller cancelled before browser navigation")
      .navigation operations task with
  | (some thrown, after) => ⟨some thrown, after, true⟩
  | (none, after) => plainEnd urls [(.projection, guardHealthy)] after

theorem Tracks.pageEnd {urls : UrlClassV1} {task : BrowserTaskV1} (tracks : Tracks urls task)
    (unadmitted : task.admitted = 0) (capability : BrowserNetworkCapabilityV1)
    (options : BrowserBoundaryOptionsV1) (beforeStart : Units) (first : PublicExecutionStageV1)
    (operations : StagedOperationsV1) :
    Tracks urls (pageEnd urls capability options beforeStart first operations task).2 := by
  have restarted : Tracks urls { task with pageExpired := false } := tracks
  have begun := restarted.perform [(first, throwIfAborted (·.pageAborted) beforeStart)]
  have still : (Klura.perform urls [(first, throwIfAborted (·.pageAborted) beforeStart)]
      { task with pageExpired := false }).2.admitted = 0 := by
    simp only [Klura.perform]
    split <;> exact unadmitted
  unfold Klura.pageEnd
  cases checked : Klura.perform urls [(first, throwIfAborted (·.pageAborted) beforeStart)]
      { task with pageExpired := false } with
  | mk failed after =>
  rw [checked] at begun still
  cases failed with
  | some thrown => exact begun
  | none =>
    cases found : after.boundary with
    | none => simpa only [found] using begun.perform operations
    | some boundary =>
      have reached : (browserMachine urls).Reaches (fun _ _ => True) boundary := by
        unfold Tracks at begun
        simp only [found] at begun
        exact begun.1
      simp only [found]
      cases refusal : boundary.transitionRefusal capability with
      | some refused => exact begun
      | none => exact (transition_tracks reached refusal still).perform operations

theorem scriptEnd_ends {operations : StagedOperationsV1} {status : Nat} (ofPage : clause.OfPage) :
    WorkEnds urls (do
      let response ← executeInBoundedPage urls none capability options
        (ascii "caller cancelled before browser navigation") .navigation clause operations status
      awaiting urls [(.projection, guardHealthy)]
      return response) (scriptEnd urls capability options operations) := by
  intro task tracks unadmitted
  have tracked := tracks.pageEnd unadmitted capability options
    (ascii "caller cancelled before browser navigation") .navigation operations
  simp only [Program.wp_bind, wp_executeInBoundedPage, wp_awaiting, Program.wp_pure, scriptEnd]
  cases ended : pageEnd urls capability options
      (ascii "caller cancelled before browser navigation") .navigation operations task with
  | mk failed after =>
  rw [ended] at tracked
  cases failed with
  | some thrown =>
    refine ⟨tracked, .inr ⟨thrown, _, rfl, rfl, fun last => ?_⟩⟩
    rw [ofPage.counts, tracked.targetRequests]
  | none =>
    have counted : after.targetRequests = after.admitted := tracked.targetRequests
    have guarded := tracked.perform [(.projection, guardHealthy)]
    simp only [plainEnd, perform] at guarded ⊢
    cases violated : (guardHealthy).fails (guardHealthy.during urls .projection after) with
    | none => exact ⟨by simpa [violated] using guarded, rfl, counted⟩
    | some thrown => exact ⟨by simpa [violated] using guarded, .inl rfl⟩

end Klura
