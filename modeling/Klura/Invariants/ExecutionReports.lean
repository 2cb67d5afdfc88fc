import Klura.Invariants.NodeReports
import Klura.Invariants.OwnBrowserReports

/-! What every strategy reports of the requests it sent, and the requests that it leaves out. -/

namespace Klura

open StrictJson

theorem BrowserCallV1.refuse_carried {call : BrowserCallV1} {checks : List (Bool × Units)}
    {thrown : ThrownV1} {count : Nat} (refuses : call.refuse checks = some thrown)
    (carries : thrown.carried = some count) : count = 0 := by
  unfold BrowserCallV1.refuse at refuses
  split at refuses
  · cases refuses
    cases carries
    rfl
  · simp only [Option.map_eq_some_iff] at refuses
    obtain ⟨failure, _, rfl⟩ := refuses
    cases failure <;> cases carries
    rfl

section

variable {urls : UrlClassV1} {call : BrowserCallV1} {checks : List (Bool × Units)}

variable {first : PublicExecutionStageV1} {clause : CatchClauseV1}

theorem boundedPage_reports {beforeStart : Units} {operations : StagedOperationsV1} {status : Nat}
    {boundary : BrowserBoundaryV1} {violation : Option PublicHttpExecutionError} {cancelled : Bool}
    (ofPage : clause.OfPage) (reached : (browserMachine urls).Reaches (fun _ _ => True) boundary) :
    Reports (executeInBoundedPage urls (call.refuse checks) call.capability call.options
      beforeStart first clause operations status) (startInPage first boundary violation cancelled) ↔
      (call.refuse checks = none → PageCounts urls call.capability call.options operations boundary
        (startInPage first boundary violation cancelled)) := by
  cases refuses : call.refuse checks with
  | none => simpa using executeInBoundedPage_reports ofPage reached
  | some thrown =>
    unfold Reports
    rw [wp_executeInBoundedPage]
    constructor
    · intro _ other
      cases other
    · intro _ count carries
      exact BrowserCallV1.refuse_carried refuses carries

theorem ownBrowser_reports {browser : OwnBrowserV1} {program : BrowserProgram PublicHttpResponseV1}
    {work : BrowserTaskV1 → WorkEndV1} {cancelled : Bool} (ofBrowser : clause.OfBrowser)
    (ends : call.refuse checks = none → WorkEnds urls program work) :
    Reports (executeInOwnBrowser urls (call.refuse checks) call.capability call.options browser
      first clause program) { cancelled } ↔
      (call.refuse checks = none → OwnCounts urls browser.ending
        (ownEnd urls call.capability call.options browser first work { cancelled })) := by
  cases refuses : call.refuse checks with
  | none =>
    have tracks : Tracks urls { cancelled } := rfl
    simpa using executeInOwnBrowser_reports ofBrowser (ends refuses) tracks rfl
  | some thrown =>
    unfold Reports executeInOwnBrowser
    simp only [Program.wp_throw]
    constructor
    · intro _ other
      cases other
    · intro _ count carries
      exact BrowserCallV1.refuse_carried refuses carries

end

/-- When each strategy reports the requests that it sent, in its response or in its error. -/
structure StrategiesReport (urls : UrlClassV1) : Prop where
  navigationInPage : ∀ call page boundary violation cancelled,
    (browserMachine urls).Reaches (fun _ _ => True) boundary →
      (Reports (executeBrowserNavigationStrategyInBoundedPage urls call page)
          (startInPage .navigation boundary violation cancelled) ↔
        (refuseNavigation call = none → PageCounts urls call.capability call.options
          page.operations boundary (startInPage .navigation boundary violation cancelled)))
  httpInPage : ∀ browserContext navigable call page boundary violation cancelled,
    (browserMachine urls).Reaches (fun _ _ => True) boundary →
      (Reports (executeBrowserHttpStrategyInBoundedPage urls browserContext navigable call page)
          (startInPage .bootstrap boundary violation cancelled) ↔
        (refuseBrowserHttp browserContext navigable call = none →
          PageCounts urls call.capability call.options
            (page.operations ++ [(.request, page.projecting)]) boundary
            (startInPage .bootstrap boundary violation cancelled)))
  pageScriptInPage : ∀ undeclaredState call page boundary violation cancelled,
    (browserMachine urls).Reaches (fun _ _ => True) boundary →
      (Reports (executeBrowserPageScriptStrategyInBoundedPage urls undeclaredState call page)
          (startInPage .navigation boundary violation cancelled) ↔
        (preparePageScriptRequest undeclaredState call = none →
          PageCounts urls call.capability call.options page.operations boundary
            (startInPage .navigation boundary violation cancelled)))
  navigation : ∀ call browser page cancelled,
    (Reports (executeBrowserNavigationStrategy urls call browser page) { cancelled } ↔
      (refuseNavigation call = none → OwnCounts urls browser.ending
        (ownEnd urls call.capability call.options browser .navigation
          (plainEnd urls
            (page.operations ++ [(.projection, guardHealthy), (.projection, assertHealthy)]))
          { cancelled })))
  http : ∀ browserContext navigable call browser page cancelled,
    (Reports (executeBrowserHttpStrategy urls browserContext navigable call browser page)
        { cancelled } ↔
      (refuseBrowserHttp browserContext navigable call = none → OwnCounts urls browser.ending
        (ownEnd urls call.capability call.options browser .bootstrap
          (plainEnd urls (page.operations ++
            [(.request, guardHealthy), (.request, assertHealthy), (.request, page.projecting)]))
          { cancelled })))
  pageScript : ∀ undeclaredState call browser page cancelled,
    (Reports (executeBrowserPageScriptStrategy urls undeclaredState call browser page)
        { cancelled } ↔
      (preparePageScriptRequest undeclaredState call = none → OwnCounts urls browser.ending
        (ownEnd urls call.capability call.options browser .navigation
          (scriptEnd urls call.capability call.options page.operations) { cancelled })))
  node : ∀ network call,
    (executeNodeHttpStrategy call network).wp
      (fun response last => response.targetRequests = last.dispatched)
      (fun thrown last => ∀ count, thrown.carried = some count → count = last.dispatched) {} ↔
      ∀ request, refuseNodeHttp call = .ok request → ∀ last,
        Relation.ReflTransGen
          (HopStep network (call.maxTargetRequests.safeInteger.getD 0).toNat request.method)
          (0, request.url) last →
        HopCounts network (call.maxTargetRequests.safeInteger.getD 0).toNat call.timedOut last

/-- A request of the runtime that no rule of the shop admits. -/
def shopFetch : BrowserFetchPausedV1 :=
  { shopPaused none with
    requestId := ascii "interception-2"
    resourceType := ascii "fetch"
    cdpResourceType := ascii "Fetch"
    networkId := some (ascii "network-2") }

/-- A call for the page of the shop. -/
def shopCall : BrowserCallV1 where
  belongs := true
  capability := shopCapability (shopRule (ascii "page") .navigation)
  maxTargetRequestsPerCall := 4
  timeoutMs := .ofInt 1000
  maxTargetRequests := .ofInt 4
  signal := 0
  workloadId := none
  prepared := none

theorem noTraffic : ∀ event ∈ ([] : List BrowserEventV1), event.isTransition = false := by simp

/-- The page of the shop is loaded, and the request that follows it is refused. -/
def shopPage : BrowserHttpPageV1 where
  navigating := { traffic := admitPage, own := by decide }
  fetching := {
    traffic := [.beginRuntimeRequest, .requestPaused shopFetch, .endRuntimeRequest 0]
    own := by decide
    fails := fun _ => some (.other (ascii "Failed to fetch")) }
  status := 200
  bytes := 0
  responseLimit := 1000
  projecting := { own := noTraffic }

/-- The code and the count of an error over public HTTP, with what the boundary admitted. -/
def reportOf {α : Type} :
    EStateM.Result ThrownV1 BrowserTaskV1 α → Option (PublicHttpErrorCodeV1 × Nat × Nat)
  | .error (.publicHttp error) last => some (error.code, error.targetRequests, last.admitted)
  | _ => none

end Klura
