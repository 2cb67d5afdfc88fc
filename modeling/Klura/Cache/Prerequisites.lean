import Klura.Contracts.Sha256
import Klura.Library.JsonGrammar
import Klura.Library.Machine
import Klura.Library.OrderedMap
import Klura.Library.Utf8

/-! The caches that browser-side prerequisites are satisfied from, and what fills them. -/

namespace Klura

/-- The kinds of prerequisites whose values are cached. -/
inductive PrereqKindV1 where
  | browser
  | jsEval
  | fetchExtract
  | pageExtract
  deriving DecidableEq

/-- A step of a browser prerequisite. -/
inductive PrereqActionV1 where
  | navigate
  | extract
  | click
  | type
  deriving DecidableEq

/-- What a step of a browser prerequisite does, as templates. -/
structure PrereqStepV1 where
  action : PrereqActionV1
  url : Option Units
  selector : Option Units
  attribute_ : Option Units
  as_ : Option Units
  value : Option Units
  deriving DecidableEq

/-- How long a token is kept: for a default time, not at all, or for so many seconds. -/
inductive PrereqTtlV1 where
  | absent
  | null
  | seconds (count : Int)
  deriving DecidableEq

/-- The background refresh of a js-eval prerequisite. -/
structure PrereqRefreshV1 where
  enabled : Bool
  intervalSeconds : Option Int
  deriving DecidableEq

/-- The definition of a prerequisite; the fields that no cache looks at are kept as one value. -/
structure PrerequisiteV1 where
  kind : PrereqKindV1
  name : Units
  binds : Option Units
  url : Option Units
  frame : Option Units
  expression : Option Units
  hasArgsTemplate : Bool
  refresh : Option PrereqRefreshV1
  steps : List PrereqStepV1
  ttl : PrereqTtlV1
  others : JsValue

/-- The tokens and arguments that templates are resolved against, and the optional parameters that
the call omits. -/
structure PrereqScopeV1 where
  tokens : OrderedMap Units JsValue
  args : OrderedMap Units JsValue
  omitted : List Units

/-- The resolution of templates, of which some fail. -/
structure TemplateResolver where
  /-- A template of an address. -/
  url : Units → PrereqScopeV1 → Option Units
  /-- A template of any other text; an omitted optional one resolves to nothing. -/
  text : Units → PrereqScopeV1 → Option (Option Units)

/-- What the templates of a step resolve to in a scope. -/
def PrereqStepV1.resolved (resolver : TemplateResolver) (scope : PrereqScopeV1)
    (step : PrereqStepV1) : List (Option (Option Units)) :=
  (step.url.toList.map fun url => (resolver.url url scope).map some) ++
    ((step.selector.toList ++ step.attribute_.toList ++ step.value.toList).map fun text =>
      resolver.text text scope)

/-- What the templates of a prerequisite resolve to in a scope; the frame is no template. -/
def PrerequisiteV1.resolved (resolver : TemplateResolver) (scope : PrereqScopeV1)
    (prereq : PrerequisiteV1) : List (Option (Option Units)) :=
  (prereq.url.toList.map fun url => (resolver.url url scope).map some) ++
    prereq.steps.flatMap (PrereqStepV1.resolved resolver scope)

/-- The name that the value of a js-eval prerequisite is bound to. -/
def PrerequisiteV1.bindsTo (prereq : PrerequisiteV1) : Units := prereq.binds.getD prereq.name

/-- The key of a value in the js-eval cache: the binding, and a digest of the expression when
there is one. -/
def jsEvalCacheKey (bindsTo : Units) : Option Units → Units
  | none | some [] => bindsTo
  | some (unit :: rest) =>
    let digest := (sha256Digest (encodeUtf8 (unit :: rest))).text
    bindsTo ++ 0 :: ((digest.drop 7).take 16).map UInt8.toUInt16

/-- The key of a value in the token cache. -/
def tokenKey (platform tokenName : Units) : Units := platform ++ ascii ":" ++ tokenName

/-- A value of the js-eval cache. -/
structure JsEvalCacheEntryV1 where
  value : Units
  expiresAt : Option Int

/-- A value of the token cache. -/
structure TokenEntryV1 where
  value : Units
  obtainedAt : Int
  ttl : Int

/-- The background refresh of a js-eval value: it evaluates what it was scheduled with. -/
structure ScheduledRefreshV1 where
  platform : Units
  prereq : PrerequisiteV1
  scope : PrereqScopeV1

/-- A place of one of the caches. -/
inductive PrereqSlotV1 where
  | jsEval (platform key : Units)
  | token (key : Units)
  deriving DecidableEq

/-- The place that the value of a prerequisite is cached in. -/
def PrerequisiteV1.slot (platform : Units) (prereq : PrerequisiteV1) : PrereqSlotV1 :=
  match prereq.kind with
  | .jsEval => .jsEval platform (jsEvalCacheKey prereq.bindsTo prereq.expression)
  | _ => .token (tokenKey platform prereq.name)

/-- A value that a prerequisite was run for. -/
structure MintedV1 where
  platform : Units
  prereq : PrerequisiteV1
  scope : PrereqScopeV1
  value : Units
  mintedAt : Int

/-- The caches with the timers of refreshes, all refreshes that ever had a timer, and every value
that was minted. -/
structure PrereqCachesV1 where
  jsEvalCache : OrderedMap (Units × Units) JsEvalCacheEntryV1
  tokenCache : OrderedMap Units TokenEntryV1
  timers : List (Units × Units)
  scheduled : List ScheduledRefreshV1
  minted : List MintedV1

/-- The caches of a process that has just begun. -/
def PrereqCachesV1.empty : PrereqCachesV1 :=
  { jsEvalCache := [], tokenCache := [], timers := [], scheduled := [], minted := [] }

/-- The milliseconds between refreshes, where they are enabled. -/
def PrerequisiteV1.refreshInterval (prereq : PrerequisiteV1) : Option Int :=
  match prereq.refresh with
  | some { enabled := true, intervalSeconds := some seconds } =>
    if 0 < seconds then some (seconds * 1000) else none
  | _ => none

/-- The seconds that the value of a prerequisite is kept in the token cache, unless it is not. -/
def PrerequisiteV1.tokenTtl (prereq : PrerequisiteV1) : Option Int :=
  match prereq.ttl with
  | .absent => some 1800
  | .null => none
  | .seconds count => some count

/-- How a prerequisite is satisfied. -/
inductive PrereqAnswerV1 where
  | failed
  | reused (value : Units)
  | evaluated (value : Units)
  /-- It is left to a browser session. -/
  | queued
  deriving DecidableEq

namespace PrereqCachesV1

/-- A value of the js-eval cache that has not expired. -/
def readJsEvalCache (caches : PrereqCachesV1) (now : Int) (platform key : Units) : Option Units :=
  match OrderedMap.get? caches.jsEvalCache (platform, key) with
  | none => none
  | some entry =>
    match entry.expiresAt with
    | some expiresAt => if expiresAt ≤ now then none else some entry.value
    | none => some entry.value

/-- Keeps a value that a js-eval prerequisite was evaluated to. -/
def writeJsEvalCache (caches : PrereqCachesV1) (now : Int) (platform : Units)
    (prereq : PrerequisiteV1) (scope : PrereqScopeV1) (value : Units) : PrereqCachesV1 :=
  { caches with
    jsEvalCache := OrderedMap.set caches.jsEvalCache
      (platform, jsEvalCacheKey prereq.bindsTo prereq.expression)
      { value, expiresAt := prereq.refreshInterval.map fun interval => now + interval }
    minted := { platform, prereq, scope, value, mintedAt := now } :: caches.minted }

/-- Schedules the refresh of a value; one that is scheduled under its key stays as it is. -/
def schedulePrereqRefresh (caches : PrereqCachesV1) (platform : Units) (prereq : PrerequisiteV1)
    (scope : PrereqScopeV1) : PrereqCachesV1 :=
  let key := (platform, jsEvalCacheKey prereq.bindsTo prereq.expression)
  if prereq.refreshInterval = none ∨ key ∈ caches.timers then caches
  else { caches with
    timers := key :: caches.timers
    scheduled := { platform, prereq, scope } :: caches.scheduled }

/-- Runs a js-eval prerequisite; the page evaluates it to a value or fails. -/
def runJsEvalBrowserPrereq (resolver : TemplateResolver) (caches : PrereqCachesV1) (now : Int)
    (platform : Units) (prereq : PrerequisiteV1) (scope : PrereqScopeV1) (forceFresh : Bool)
    (page : Option Units) : PrereqAnswerV1 × PrereqCachesV1 :=
  match resolver.url (prereq.url.getD []) scope with
  | none => (.failed, caches)
  | some _ =>
    if forceFresh || prereq.hasArgsTemplate then
      match page with
      | none => (.failed, caches)
      | some minted => (.evaluated minted, caches)
    else
      match caches.readJsEvalCache now platform
          (jsEvalCacheKey prereq.bindsTo prereq.expression) with
      | some (unit :: rest) => (.reused (unit :: rest), caches)
      -- An empty value counts as none.
      | _ =>
        match page with
        | none => (.failed, caches)
        | some minted => (.evaluated minted,
          (caches.writeJsEvalCache now platform prereq scope minted).schedulePrereqRefresh
            platform prereq scope)

/-- A token that has not expired; a time of zero counts as unknown and never passes. -/
def getToken (caches : PrereqCachesV1) (now : Int) (platform tokenName : Units) : Option Units :=
  match OrderedMap.get? caches.tokenCache (tokenKey platform tokenName) with
  | none => none
  | some entry =>
    if entry.ttl ≠ 0 ∧ entry.ttl * 1000 ≤ now - entry.obtainedAt then none else some entry.value

/-- Keeps the token that a prerequisite leaves under its name, unless it is not to be kept; the
prerequisite was run for it unless the name was bound before. -/
def setToken (caches : PrereqCachesV1) (now : Int) (platform : Units) (prereq : PrerequisiteV1)
    (scope : PrereqScopeV1) (value : Units) (isOwn : Bool) : PrereqCachesV1 :=
  match prereq.tokenTtl with
  | none => caches
  | some ttl =>
    { caches with
      tokenCache := OrderedMap.set caches.tokenCache (tokenKey platform prereq.name)
        { value, obtainedAt := now, ttl }
      minted :=
        if isOwn then { platform, prereq, scope, value, mintedAt := now } :: caches.minted
        else caches.minted }

/-- Satisfies a browser prerequisite before a session is opened, when its token is cached. -/
def scanBrowserPrereq (caches : PrereqCachesV1) (now : Int) (platform : Units)
    (prereq : PrerequisiteV1) : PrereqAnswerV1 × PrereqCachesV1 :=
  match caches.getToken now platform prereq.name with
  | some (unit :: rest) => (.reused (unit :: rest), caches)
  | some [] => (.queued, caches)
  | none => (.queued, { caches with
      tokenCache := OrderedMap.delete caches.tokenCache (tokenKey platform prereq.name) })

end PrereqCachesV1

/-- Runs the steps of a browser prerequisite, which leave their tokens and the names they bound;
the driver answers each step, with a text where it has one, or fails. -/
def runBrowserSteps (resolver : TemplateResolver) :
    List PrereqStepV1 → PrereqScopeV1 → List (Option (Option Units)) →
      Option (OrderedMap Units JsValue × List Units)
  | [], scope, _ => some (scope.tokens, [])
  | _ :: _, _, [] => none
  | step :: steps, scope, answer :: answers =>
    match (step.resolved resolver scope).all Option.isSome, answer with
    | true, some text =>
      match step.action, step.as_, step.selector.map fun selector => resolver.text selector scope with
      | .extract, some (unit :: rest), some (some (some (_ :: _))) =>
        let value : JsValue := (text.map .string).getD .null
        let next := { scope with tokens := OrderedMap.set scope.tokens (unit :: rest) value }
        (runBrowserSteps resolver steps next answers).map fun ran =>
          (ran.1, (unit :: rest) :: ran.2)
      | _, _, _ => runBrowserSteps resolver steps scope answers
    | _, _ => none

namespace PrereqCachesV1

/-- Runs a browser prerequisite and keeps the text that is bound to its name afterwards. -/
def runBrowserPrereq (resolver : TemplateResolver) (caches : PrereqCachesV1) (now : Int)
    (platform : Units) (prereq : PrerequisiteV1) (scope : PrereqScopeV1)
    (answers : List (Option (Option Units))) : PrereqAnswerV1 × PrereqCachesV1 :=
  match runBrowserSteps resolver prereq.steps scope answers with
  | none => (.failed, caches)
  | some (tokens, bound) =>
    match prereq.name, OrderedMap.get? tokens prereq.name with
    | _ :: _, some (.string (unit :: rest)) =>
      (.evaluated (unit :: rest), caches.setToken now platform prereq scope (unit :: rest)
        (decide (prereq.name ∈ bound)))
    | _, _ => (.evaluated [], caches)

/-- Keeps the value that a prerequisite fetched from Node under its own name. -/
def storeExtracted (caches : PrereqCachesV1) (now : Int) (platform : Units)
    (prereq : PrerequisiteV1) (scope : PrereqScopeV1) (value : Units) :
    PrereqAnswerV1 × PrereqCachesV1 :=
  match prereq.name, value with
  | _ :: _, _ :: _ => (.evaluated value, caches.setToken now platform prereq scope value true)
  | _, _ => (.evaluated value, caches)

end PrereqCachesV1

/-- What may happen to the caches. -/
inductive PrereqEventV1 where
  | jsEval (platform : Units) (prereq : PrerequisiteV1) (scope : PrereqScopeV1) (forceFresh : Bool)
      (page : Option Units)
  /-- The scope is the one that the steps would be run in. -/
  | scan (platform : Units) (prereq : PrerequisiteV1) (scope : PrereqScopeV1)
  | browser (platform : Units) (prereq : PrerequisiteV1) (scope : PrereqScopeV1)
      (answers : List (Option (Option Units)))
  | extracted (platform : Units) (prereq : PrerequisiteV1) (scope : PrereqScopeV1) (value : Units)
  /-- A scheduled refresh evaluates to a value; one that was cancelled meanwhile still keeps it. -/
  | refreshes (schedule : ScheduledRefreshV1) (value : Units)
  /-- The warm context of a platform is evicted, and its values with it. -/
  | cancels (platform : Units)

/-- What an event at a time is answered with, and the caches after it. -/
def PrereqCachesV1.apply (resolver : TemplateResolver) (caches : PrereqCachesV1) (now : Int) :
    PrereqEventV1 → PrereqAnswerV1 × PrereqCachesV1
  | .jsEval platform prereq scope forceFresh page =>
    caches.runJsEvalBrowserPrereq resolver now platform prereq scope forceFresh page
  | .scan platform prereq _ => caches.scanBrowserPrereq now platform prereq
  | .browser platform prereq scope answers =>
    caches.runBrowserPrereq resolver now platform prereq scope answers
  | .extracted platform prereq scope value =>
    caches.storeExtracted now platform prereq scope value
  | .refreshes schedule value => (.evaluated value,
      caches.writeJsEvalCache now schedule.platform schedule.prereq schedule.scope value)
  | .cancels platform => (.queued, { caches with
      jsEvalCache := caches.jsEvalCache.filter fun entry => decide (entry.1.1 ≠ platform)
      timers := caches.timers.filter fun key => decide (key.1 ≠ platform) })

/-- Whether an event is one of the caches: each kind of prerequisite has its own way to be run, and
only what was scheduled is refreshed. -/
def PrereqEventV1.Proper (caches : PrereqCachesV1) : PrereqEventV1 → Prop
  | .jsEval _ prereq _ _ _ => prereq.kind = .jsEval
  | .scan _ prereq _ | .browser _ prereq _ _ => prereq.kind = .browser
  | .extracted _ prereq _ _ => prereq.kind = .fetchExtract ∨ prereq.kind = .pageExtract
  | .refreshes schedule _ => schedule ∈ caches.scheduled
  | .cancels _ => True

/-- The machine of the caches: any event may come at any time. -/
def prereqMachine (resolver : TemplateResolver) : Machine PrereqCachesV1 (Int × PrereqEventV1) where
  starts caches := caches = .empty
  step caches event after :=
    event.2.Proper caches ∧ after = (caches.apply resolver event.1 event.2).2

end Klura
