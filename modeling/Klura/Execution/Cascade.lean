import Klura.Cache.Capability
import Klura.Execution.FramePrograms

/-! An execution of a capability: its strategies are tried tier by tier. -/

namespace Klura

open StrictJson

/-- The depth of prerequisites beyond which nothing is executed. -/
def MAX_PREREQ_DEPTH : Nat := 5

/-- An execution of a capability as it is asked for. -/
structure LocalExecutionV1 where
  platform : Units
  capability : Units
  args : CallArgs
  depth : Nat
  identity : Option Units
  /-- The strategies of a verification, in place of the saved ones. -/
  strategyOverride : Option (List LocalStrategyV1)
  suppressStrategyState : Bool
  suppressPersistedCookies : Bool

/-- What a cascade has noted of a tier. -/
inductive CascadeNoteV1 where
  | brokenSkipped (tier : StrategyTier)
  | missingArgs (tier : StrategyTier) (names : List Units)
  | unobservedEnum (tier : StrategyTier) (names : List Units)
  | withoutPool (tier : StrategyTier)
  | failedWith (tier : StrategyTier) (status : Option Nat)
  | threw (tier : StrategyTier) (error : LocalErrorV1)

/-- What a cascade carries from one tier to the next. -/
structure CascadeStateV1 where
  args : CallArgs
  notes : List CascadeNoteV1
  lastFailedResult : Option LocalResultV1
  lastFailedStrategy : Option LocalStrategyV1
  partialReplayAttempted : Bool

/-- How a tier ends. -/
inductive TurnV1 where
  | answered (result : LocalResultV1)
  | next (state : CascadeStateV1)
  /-- The main request was missed, and a partial replay is due. -/
  | missed (state : CascadeStateV1)

/-- The parameters that a call leaves out. -/
def findMissingParams (strategy : LocalStrategyV1) (args : CallArgs) : List Units :=
  (strategy.params.filter fun doc => !doc.optional && !(ascii "__gen.").isPrefixOf doc.name &&
    isMissingTemplateValue (OrderedMap.get? args doc.name)).map ParamDocV1.name

/-- The text that a call gives a parameter of an enumeration. -/
def enumText (doc : ParamDocV1) (args : CallArgs) : Option Units :=
  if doc.isEnum then
    match OrderedMap.get? args doc.name with
    | some (.string (unit :: rest)) => some (unit :: rest)
    | _ => none
  else none

/-- The parameters whose values were never observed. -/
def findUnobservedEnumArgs (strategy : LocalStrategyV1) (args : CallArgs) : List Units :=
  (strategy.params.filter fun doc =>
    match enumText doc args with
    | some value => doc.observed ≠ [] && decide (value ∉ doc.observed)
    | none => false).map ParamDocV1.name

variable (code : LocalCodeV1)

/-- The arguments with the values of enumerations in the case they were observed in. -/
def normalizeEnumArgCasing (strategy : LocalStrategyV1) (args : CallArgs) : CallArgs :=
  strategy.params.foldl (fun args doc =>
    match enumText doc args with
    | some value =>
      if value ∈ doc.observed then args
      else
        match doc.observed.filter fun other => code.toLowerCase other == code.toLowerCase value with
        | [only] => OrderedMap.set args doc.name (.string only)
        | _ => args
    | none => args) args

variable (execute : SubCallV1 → LocalProgram LocalResultV1)

/-- The parameters whose values the capabilities that list them do not have. -/
def validateEnumArgsAgainstSourceCapability (args : CallArgs) (call : LocalExecutionV1) :
    List ParamDocV1 → LocalProgram (List Units)
  | [] => pure []
  | doc :: rest => do
    let others := validateEnumArgsAgainstSourceCapability args call rest
    match enumText doc args, doc.source with
    | some value, some (unit :: source) =>
      if value ∈ doc.observed then others
      else
        let listing ← tryCatch
          (do
            let result ← execute {
              platform := call.platform, capability := unit :: source, args := []
              depth := call.depth + 1, identity := call.identity
              suppressStrategyState := call.suppressStrategyState }
            return some result)
          (fun _ => return none)
        match listing with
        | none => return doc.name :: (← others)
        | some result =>
          match classifyFactoryExecutionResult result.toExecuteResultV1 with
          | .notRun => throw (.state .notRun (ascii "dynamic_enum_source_not_run")
              [(ascii "source_capability", .string (unit :: source))])
          | .deliveryUnknown =>
            throw (.state .sentUnconfirmed (ascii "dynamic_enum_source_delivery_unknown")
              [(ascii "source_capability", .string (unit :: source))])
          | .transportFailure => return doc.name :: (← others)
          | _ =>
            if value ∈ code.extractEnumValuesFromListing result.body then others
            else return doc.name :: (← others)
    | _, _ => others

/-- A capability prerequisite resolved for the account of an execution. -/
def boundResolveCapabilityPrereq (call : LocalExecutionV1) (args : CallArgs)
    (suppressStrategyState : Bool) : CapabilityResolver := fun prereq tokens =>
  resolveCapabilityPrereq code execute prereq call.platform args tokens call.depth call.identity
    suppressStrategyState

/-- The call that a strategy is executed with. -/
def LocalExecutionV1.strategyCall (call : LocalExecutionV1) (args : CallArgs) (hasTokenCache : Bool)
    (role : RequestRoleV1) : StrategyCallV1 :=
  { platform := call.platform, capability := call.capability, args, depth := call.depth,
    identity := call.identity, hasTokenCache, role }

/-- The main request from Node, or the signal that Node's transport fails with. -/
def nodeOrSignal (strategy : LocalStrategyV1) (call : StrategyCallV1)
    (resolve : CapabilityResolver) (withoutPersistedCookies : Bool) :
    LocalProgram (LocalResultV1 ⊕ Units) :=
  tryCatch
    (do
      let result ← executeFetchNode code strategy call resolve withoutPersistedCookies
      return .inl result)
    (fun error =>
      match error with
      | .transportFailure signal => return .inr signal
      | _ => throw error)

/-- Executes a strategy on its tier, none where it needs a pool that is missing. -/
def runTier (hasPool hasTokenCache : Bool) (call : LocalExecutionV1) (strategy : LocalStrategyV1)
    (args : CallArgs) : LocalProgram (Option LocalResultV1) := do
  let own := call.strategyCall args hasTokenCache (.main call.depth)
  match strategy.tier, strategy.websocket with
  | .fetch, some socket | .pageScript, some socket =>
    dispatchWebSocket code execute strategy socket own hasPool call.suppressStrategyState
  | .fetch, none =>
    let resolve := boundResolveCapabilityPrereq code execute call args call.suppressStrategyState
    match ← nodeOrSignal code strategy own resolve call.suppressPersistedCookies with
    | .inl result => return some result
    | .inr signal =>
      if hasPool then
        Interaction.whenever (call.suppressStrategyState = false)
          (recordNodeTransportFailures call.platform call.capability .http signal)
        let result ← executeFetchInBrowser code execute strategy own
        return some result
      else return none
  | .pageScript, none =>
    if hasPool then
      let result ← executeFetchInBrowser code execute strategy own
      return some result
    else return none
  | .recordedPath, _ =>
    if hasPool then
      let result ← executeRecordedPath code execute strategy own
      return some result
    else return none

/-- Records that a tier failed, and archives its strategy once it counts as broken. -/
def recordFailure (call : LocalExecutionV1) (tier : StrategyTier) : LocalProgram Unit :=
  Interaction.whenever (call.suppressStrategyState = false) do
    performs (.updateHealth call.platform call.capability tier .failed)
    let isBroken ← performs (.getHealthIsBroken call.platform call.capability tier)
    Interaction.whenever (isBroken = true)
      (attempts (.archiveStrategy call.platform call.capability tier))

/-- Records that a tier worked, and stamps the proof of one that showed that it reads something. -/
def recordSuccess (call : LocalExecutionV1) (strategy : LocalStrategyV1) (result : LocalResultV1) :
    LocalProgram Unit :=
  Interaction.whenever (call.suppressStrategyState = false) do
    performs (.updateHealth call.platform call.capability strategy.tier .healthy)
    Interaction.whenever
      (classifyFactoryExecutionResult result.toExecuteResultV1 = .explicitSuccess ∧
        strategy.tier ≠ .recordedPath ∧
        code.assessDeclaredCollectionEmptiness strategy result.body = false)
      (attempts (.stampPostSaveValidationProof call.platform call.capability strategy))
    let protocol := if strategy.websocket.isSome then WireProtocolV1.websocket else .http
    Interaction.whenever (strategy.tier = .fetch) (performs
      (.updateHealth call.platform call.capability .fetch (.nodeTransportSuccess protocol)))

/-- What follows on the result of a tier. -/
def judgeResult (call : LocalExecutionV1) (strategy : LocalStrategyV1) (state : CascadeStateV1)
    (result : LocalResultV1) : LocalProgram TurnV1 := do
  if isHealableBlocker result.body then return .answered result
  else
    match classifyFactoryExecutionResult result.toExecuteResultV1 with
    | .explicitFailure | .notRun | .deliveryUnknown => return .answered result
    | .transportFailure =>
      recordFailure call strategy.tier
      let failed := { state with
        notes := state.notes ++ [.failedWith strategy.tier result.status]
        lastFailedResult := some result, lastFailedStrategy := some strategy }
      if call.suppressStrategyState = false ∧ state.partialReplayAttempted = false ∧
          strategy.tier ≠ .recordedPath then
        return .missed { failed with partialReplayAttempted := true }
      else return .next failed
    | .explicitSuccess | .transportAccepted =>
      recordSuccess code call strategy result
      return .answered result

/-- A tier once the arguments of the call passed its checks. -/
def tryTier (hasPool hasTokenCache : Bool) (call : LocalExecutionV1) (strategy : LocalStrategyV1)
    (state : CascadeStateV1) : LocalProgram TurnV1 := do
  let unobserved ← validateEnumArgsAgainstSourceCapability code execute state.args call
    strategy.params
  if unobserved ≠ [] then
    return .next { state with
      notes := state.notes ++ [.unobservedEnum strategy.tier unobserved]
      lastFailedResult := state.lastFailedResult <|>
        some (stateResult .notRun [(ascii "error", .string (ascii "unobserved_enum_arg"))]) }
  else
    match ← runTier code execute hasPool hasTokenCache call strategy state.args with
    | none => return .next { state with notes := state.notes ++ [.withoutPool strategy.tier] }
    | some result => judgeResult code call strategy state result

/-- What an error of a tier leads to: one with an execution state is the answer. -/
def turnFailure (call : LocalExecutionV1) (tier : StrategyTier) (state : CascadeStateV1)
    (error : LocalErrorV1) : LocalProgram TurnV1 := do
  match error with
  | .state reached found details =>
    return .answered (stateResult reached ((ascii "error", .string found) :: details))
  | other =>
    recordFailure call tier
    return .next { state with notes := state.notes ++ [.threw tier other] }

/-- The main request again from Node, or from the page where Node's transport fails. -/
def retryFetch (hasTokenCache : Bool) (call : LocalExecutionV1) (strategy : LocalStrategyV1)
    (args : CallArgs) : LocalProgram LocalResultV1 := do
  let own := call.strategyCall args hasTokenCache (.retry call.depth)
  let resolve := boundResolveCapabilityPrereq code execute call args false
  match ← nodeOrSignal code strategy own resolve call.suppressPersistedCookies with
  | .inl result => return result
  | .inr _ => executeFetchInBrowser code execute strategy own

/-- The main request again behind a partial replay; a request from Node is sent while the session of
the replay is still open. -/
def retryPrimary (hasTokenCache : Bool) (call : LocalExecutionV1) (strategy : LocalStrategyV1)
    (args : CallArgs) (session : SessionV1) : LocalProgram LocalResultV1 := do
  if strategy.tier = .fetch then
    let result ← retryFetch code execute hasTokenCache call strategy args
    performs (.endDriveQuietly session)
    return result
  else
    performs (.endDriveQuietly session)
    executeFetchInBrowser code execute strategy
      (call.strategyCall args hasTokenCache (.retry call.depth))

/-- Replays the recorded path up to the step at which a strategy was found, and fires its main
request again: its result is the answer unless it is missed again, and no error of it is. -/
def LocalExecutionV1.tryRevisitPartialReplay (hasPool hasTokenCache : Bool) (call : LocalExecutionV1)
    (strategy : LocalStrategyV1) (strategies : List LocalStrategyV1) (args : CallArgs) :
    LocalProgram (Option LocalResultV1) := do
  match hasPool, strategy.anchor, strategies.find? fun other => other.tier = .recordedPath with
  | true, some (unit :: rest), some recorded =>
    let own := call.strategyCall args hasTokenCache (.main call.depth)
    match ← replayRecordedPathToAnchor recorded (unit :: rest) own with
    | none => return none
    | some session =>
      tryCatch
        (do
          if strategy.tier = .fetch ∧ strategy.websocket.isSome then
            performs (.endDriveQuietly session)
            return none
          else
            let result ← retryPrimary code execute hasTokenCache call strategy args session
            if classifyFactoryExecutionResult result.toExecuteResultV1 = .transportFailure then
              return none
            else return some result)
        (fun _ => do
          performs (.endDriveQuietly session)
          return none)
  | _, _, _ => return none

/-- Whether a tier is tried: a broken one only from time to time. -/
def passesProbation (call : LocalExecutionV1) (tier : StrategyTier) : LocalProgram Bool := do
  if call.suppressStrategyState then return true
  else
    match ← performs (.shouldSkipBrokenTier call.platform call.capability tier) with
    | .run => return true
    | .skip => return false
    | .probe =>
      performs (.updateHealth call.platform call.capability tier .probeAttempted)
      return true

/-- The state of a cascade behind a check that a call does not pass. -/
def CascadeStateV1.refused (state : CascadeStateV1) (note : CascadeNoteV1) (error : String) :
    CascadeStateV1 :=
  { state with
    notes := state.notes ++ [note]
    lastFailedResult := state.lastFailedResult <|>
      some (stateResult .notRun [(ascii "error", .string (ascii error))]) }

/-- The turn of a strategy in a cascade. -/
def takeTurn (hasPool hasTokenCache : Bool) (call : LocalExecutionV1)
    (strategies : List LocalStrategyV1) (strategy : LocalStrategyV1) (state : CascadeStateV1) :
    LocalProgram TurnV1 := do
  if ← passesProbation call strategy.tier then
    let missing := findMissingParams strategy state.args
    if missing ≠ [] then
      return .next (state.refused (.missingArgs strategy.tier missing) "missing_args")
    else
      let cased := { state with args := normalizeEnumArgCasing code strategy state.args }
      let unobserved := findUnobservedEnumArgs strategy cased.args
      if unobserved ≠ [] then
        return .next (cased.refused (.unobservedEnum strategy.tier unobserved)
          "unobserved_enum_arg")
      else
        let turn ← tryCatch (tryTier code execute hasPool hasTokenCache call strategy cased)
          (turnFailure call strategy.tier cased)
        match turn with
        | .missed missed =>
          tryCatch
            (do
              let retried ← LocalExecutionV1.tryRevisitPartialReplay code execute hasPool
                hasTokenCache call strategy strategies missed.args
              return match retried with
                | some result => .answered result
                | none => .next missed)
            (turnFailure call strategy.tier missed)
        | other => return other
  else return .next { state with notes := state.notes ++ [.brokenSkipped strategy.tier] }

/-- The strategies take their turns until one is answered. -/
def cascade (hasPool hasTokenCache : Bool) (call : LocalExecutionV1)
    (strategies : List LocalStrategyV1) :
    List LocalStrategyV1 → CascadeStateV1 → LocalProgram (LocalResultV1 ⊕ CascadeStateV1)
  | [], state => pure (.inr state)
  | strategy :: rest, state => do
    match ← takeTurn code execute hasPool hasTokenCache call strategies strategy state with
    | .answered result => return .inl result
    | .next after | .missed after =>
      cascade hasPool hasTokenCache call strategies rest after

/-- The capabilities that a prerequisite signs in with. -/
def authCapabilitiesOf (targetPlatform : Units) (prereq : StrategyPrereqV1) :
    LocalProgram (List (Units × Units)) := do
  match prereq.kind, prereq.tag, prereq.capability with
  | .tag, some tag, _ =>
    let providers ← attempts (.findCapabilitiesProviding targetPlatform tag)
    return providers.map fun capability => (targetPlatform, capability)
  | .capability, _, some capability =>
    let target ← attempts (.loadStrategy targetPlatform capability)
    return if (target.map LocalStrategyV1.provides).getD [] |>.contains (ascii "auth") then
      [(targetPlatform, capability)] else []
  | _, _, _ => return []

/-- The capabilities that the prerequisites of strategies sign in with. -/
def collectAuthProvidingPrereqCapabilities (callerPlatform : Units) :
    List StrategyPrereqV1 → LocalProgram (List (Units × Units))
  | [] => pure []
  | prereq :: rest => do
    let targetPlatform := match prereq.platform with
      | some (unit :: more) => unit :: more
      | _ => callerPlatform
    let found ← authCapabilitiesOf targetPlatform prereq
    let others ← collectAuthProvidingPrereqCapabilities callerPlatform rest
    return (found ++ others).dedup

/-- Evicts the cached results of capabilities. -/
def evictAll (identity : Option Units) : List (Units × Units) → LocalProgram Unit
  | [] => pure ()
  | (platform, capability) :: rest => do
    performs (.evictForCapability platform identity capability)
    evictAll identity rest

/-- Whether a result says that signing in is needed. -/
def needsReauth (result : LocalResultV1) : Bool :=
  match result.status, result.body with
  | some status, .object fields => decide (400 ≤ status) && isBoolean fields "needs_reauth" true
  | _, _ => false

/-- Executes the capability once more when the cascade failed for want of signing in. -/
def maybeRetryAfterAuthWall (call : LocalExecutionV1) (strategies : List LocalStrategyV1)
    (lastFailedResult : Option LocalResultV1) (again : Option (LocalProgram LocalResultV1)) :
    LocalProgram (Option LocalResultV1) := do
  match again, lastFailedResult with
  | some again, some last =>
    if code.looksLikeAuthFailure last then
      let found ← collectAuthProvidingPrereqCapabilities call.platform
        (strategies.flatMap LocalStrategyV1.prerequisites)
      if found = [] then return none
      else
        Interaction.whenever (call.suppressStrategyState = false) (evictAll call.identity found)
        let retried ← again
        return if needsReauth retried then none else some retried
    else return none
  | _, _ => return none

/-- The strategies that the policy of a capability allows. -/
def allowedStrategies (call : LocalExecutionV1) :
    List LocalStrategyV1 → LocalProgram (List LocalStrategyV1)
  | [] => pure []
  | strategy :: rest => do
    let isAllowed ← attempts (.isTierAllowed call.platform call.capability strategy.tier)
    let others ← allowedStrategies call rest
    return if isAllowed then strategy :: others else others

/-- The strategies of an execution: those it is given, or else the saved ones. -/
def strategiesOf (call : LocalExecutionV1) : LocalProgram (List LocalStrategyV1) :=
  match call.strategyOverride with
  | some given => pure given
  | none => attempts (.loadStrategies call.platform call.capability)

/-- An execution of a capability, with what executes it once more. -/
def executeOnce (finalizeCascadeFailure : CallArgs → CascadeStateV1 → LocalResultV1)
    (hasPool hasTokenCache : Bool) (call : LocalExecutionV1)
    (again : Option (LocalProgram LocalResultV1)) : LocalProgram LocalResultV1 := do
  if MAX_PREREQ_DEPTH < call.depth then
    return stateResult .notRun [(ascii "error", .string (ascii "capability_prereq_depth_exceeded"))]
  else
    let profile ← attempts (.getIdentity call.platform call.identity)
    if ← attempts (.isCapabilityForbidden call.platform call.capability) then
      return stateResult .notRun [(ascii "error", .string (ascii "policy_violation"))]
    else
      let saved ← strategiesOf call
      let strategies ← allowedStrategies call saved
      if strategies.isEmpty then
        if saved.isEmpty then throw (.other (ascii "No strategy found"))
        else return stateResult .notRun [(ascii "error", .string (ascii "policy_violation"))]
      else
        let start : CascadeStateV1 := {
          args := spread profile call.args, notes := [], lastFailedResult := none,
          lastFailedStrategy := none, partialReplayAttempted := false }
        match ← cascade code execute hasPool hasTokenCache call strategies strategies start with
        | .inl result => return result
        | .inr ended =>
          let unsent := ended.lastFailedResult.filter fun last => last.executionState.isSome
          match unsent with
          | some last => return last
          | none =>
            match ← maybeRetryAfterAuthWall code call strategies ended.lastFailedResult again with
            | some result => return result
            | none => return finalizeCascadeFailure call.args ended

/-- An execution of a capability. Executions below it are followed down to a nesting; deeper ones,
which a recorded path that depends on itself reaches, fail. -/
def executeNested (finalizeCascadeFailure : CallArgs → CascadeStateV1 → LocalResultV1)
    (hasPool hasTokenCache : Bool) : Nat → LocalExecutionV1 → LocalProgram LocalResultV1
  | 0, _ => throw (.other (ascii "Maximum call stack size exceeded"))
  | nesting + 1, call =>
    let below : SubCallV1 → LocalProgram LocalResultV1 := fun sub =>
      executeNested finalizeCascadeFailure hasPool hasTokenCache nesting {
        platform := sub.platform, capability := sub.capability, args := sub.args
        depth := sub.depth, identity := sub.identity, strategyOverride := none
        suppressStrategyState := sub.suppressStrategyState, suppressPersistedCookies := false }
    let once := executeOnce code below finalizeCascadeFailure hasPool hasTokenCache call
    -- The flag of the second pass keeps it from a third.
    once (some (once none))

end Klura
