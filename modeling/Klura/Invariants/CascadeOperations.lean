import Klura.Invariants.ExecutionOperations

/-! An execution with all that it executes stays in its scope, whatever strategies it finds that fit
in it. -/

namespace Klura

open Interaction

section

variable {γ : Type} {contract : Contract localInterface γ} {ghost : γ} {scope : ExecutionScope}
  {errors : LocalErrorV1 → Prop} {code : LocalCodeV1}
  {execute : SubCallV1 → LocalProgram LocalResultV1}
  {call : LocalExecutionV1} {strategy : LocalStrategyV1} {hasPool hasTokenCache : Bool}

/-- An execution is for an account and a platform of a scope. -/
structure LocalExecutionV1.Within (scope : ExecutionScope) (hasTokenCache : Bool)
    (call : LocalExecutionV1) : Prop where
  platform : scope.platform call.platform
  account : scope.account call.identity
  prerequisite : scope.role .prerequisite
  persists : call.suppressStrategyState = false → scope.persists
  tokens : hasTokenCache = true → scope.tokens

/-- The main requests of an execution and the steps of its recorded path are of a scope. -/
structure LocalExecutionV1.Sends (scope : ExecutionScope) (call : LocalExecutionV1) : Prop where
  main : scope.role (.main call.depth)
  retry : scope.role (.retry call.depth)
  steps : scope.steps (.main call.depth)

theorem LocalExecutionV1.Within.uses (within : call.Within scope hasTokenCache)
    (persists : scope.persists) : scope.Uses call.platform call.identity :=
  ⟨persists, within.platform, within.account⟩

theorem validateEnumArgs_stays (admits : AdmitsScope contract ghost scope errors)
    (within : call.Within scope hasTokenCache)
    (below : StaysBelow contract ghost errors scope execute call.suppressStrategyState)
    (args : CallArgs) (docs : List ParamDocV1) :
    Stays contract ghost errors
      (validateEnumArgsAgainstSourceCapability code execute args call docs) := by
  induction docs with
  | nil => exact .pure _
  | cons doc rest ih =>
    unfold validateEnumArgsAgainstSourceCapability
    dsimp only
    split
    · refine .ite (fun _ => ih) fun _ => .bind ?_ fun listing => ?_
      · apply Stays.tryCatch
        · refine .bind (below _ within.platform within.account rfl ?_) fun _ => .pure _
          exact Nat.succ_pos _
        · exact fun _ _ => .pure _
      · cases listing with
        | none => exact .bind ih fun _ => .pure _
        | some result =>
          dsimp only
          split
          · exact .throw (admits.own _ nofun)
          · exact .throw (admits.own _ nofun)
          · exact .bind ih fun _ => .pure _
          · exact .ite (fun _ => ih) fun _ => .bind ih fun _ => .pure _
    · exact ih

/-- The capabilities below an execution stay where what outlives it may be used, or where it
suppresses that itself. -/
def BelowStays (contract : Contract localInterface γ) (ghost : γ) (errors : LocalErrorV1 → Prop)
    (scope : ExecutionScope) (execute : SubCallV1 → LocalProgram LocalResultV1) : Prop :=
  ∀ suppressStrategyState, (suppressStrategyState = false → scope.persists) →
    StaysBelow contract ghost errors scope execute suppressStrategyState

/-- The main request from Node stays in the scope, and a failure of Node's transport is one that is
expected. -/
theorem nodeOrSignal_keeps (admits : AdmitsScope contract ghost scope errors) {own : StrategyCallV1}
    {resolve : CapabilityResolver} {withoutPersistedCookies : Bool}
    (stays : Stays contract ghost errors
      (executeFetchNode code strategy own resolve withoutPersistedCookies)) :
    (nodeOrSignal code strategy own resolve withoutPersistedCookies).Keeps contract
      (fun attempt after => after = ghost ∧ ∀ signal, attempt = .inr signal → scope.httpFails)
      (fun error after => after = ghost ∧ errors error) ghost := by
  unfold nodeOrSignal
  rw [keeps_tryCatch, keeps_bind]
  refine stays.keeps (fun result => ⟨rfl, nofun⟩) fun error expected => ?_
  cases error with
  | transportFailure signal => exact ⟨rfl, fun _ _ => admits.failures signal expected⟩
  | state | requestTimeout | scheduler | prereq | other => exact ⟨rfl, expected⟩

/-- Executing a fitting strategy on its tier stays in the scope. -/
theorem runTier_stays (admits : AdmitsScope contract ghost scope errors)
    (within : call.Within scope hasTokenCache) (sends : call.Sends scope)
    (fits : strategy.Fits scope hasPool call.suppressStrategyState
      call.suppressPersistedCookies)
    (below : BelowStays contract ghost errors scope execute) (args : CallArgs) :
    Stays contract ghost errors
      (runTier code execute hasPool hasTokenCache call strategy args) := by
  have inPage (persists : scope.persists) (default : scope.account none) : Stays contract ghost
      errors (executeFetchInBrowser code execute strategy
        (call.strategyCall args hasTokenCache (.main call.depth))) :=
    executeFetchInBrowser_stays admits within.tokens sends.main (within.uses persists)
      ⟨persists, within.platform, default⟩ (below false fun _ => persists) fits.platforms
  unfold runTier
  dsimp only
  split
  · next socket isFetch overSocket =>
    exact dispatchWebSocket_stays admits fits overSocket within.tokens within.prerequisite
      sends.main within.platform within.account fun persists => below false fun _ => persists
  · next socket isPage overSocket =>
    exact dispatchWebSocket_stays admits fits overSocket within.tokens within.prerequisite
      sends.main within.platform within.account fun persists => below false fun _ => persists
  · next isFetch overHttp =>
    have fromNode : Stays contract ghost errors (executeFetchNode code strategy
        (call.strategyCall args hasTokenCache (.main call.depth))
        (boundResolveCapabilityPrereq code execute call args call.suppressStrategyState)
        call.suppressPersistedCookies) := by
      refine executeFetchNode_stays admits within.tokens within.prerequisite sends.main ?_ ?_ ?_
      · intro prereq member isFetched
        exact within.uses (fits.fetched isFetch prereq member isFetched).1
      · intro prereq member onCapability bound
        exact resolveCapabilityPrereq_stays admits within.persists within.platform within.account
          (below _ within.persists) (fits.platforms prereq member) _ _ _
      · intro own kept
        exact within.uses (fits.jar isFetch own overHttp kept)
    unfold Stays
    rw [keeps_bind]
    refine (nodeOrSignal_keeps admits fromNode).mono ?_ fun _ _ same => same
    intro attempt after ⟨same, failed⟩
    subst same
    cases attempt with
    | inl result => rfl
    | inr signal =>
      show Stays contract after errors _
      refine .ite (fun pool => ?_) fun _ => .pure _
      obtain ⟨persists, default⟩ := fits.fallback pool isFetch overHttp (failed signal rfl)
      exact .bind (.whenever fun _ => recordNodeTransportFailures_stays admits persists _ _)
        fun _ => .bind (inPage persists default) fun _ => .pure _
  · next isPage overHttp =>
    refine .ite (fun pool => ?_) fun _ => .pure _
    obtain ⟨persists, default⟩ := fits.page pool isPage (.inl overHttp)
    exact .bind (inPage persists default) fun _ => .pure _
  · next isRecorded =>
    refine .ite (fun pool => ?_) fun _ => .pure _
    obtain ⟨persists, default⟩ := fits.sessions pool (.inl (by rw [isRecorded]; decide))
    refine .bind (executeRecordedPath_stays admits within.tokens sends.steps (within.uses persists)
      ?_) fun _ => .pure _
    intro prereq member onCapability bound
    exact resolveCapabilityPrereq_stays admits (fun _ => persists) within.platform
      (default prereq member onCapability) (below false fun _ => persists)
      (fits.platforms prereq member) _ _ _

theorem recordFailure_stays (admits : AdmitsScope contract ghost scope errors)
    (within : call.Within scope hasTokenCache) (tier : StrategyTier) :
    Stays contract ghost errors (recordFailure call tier) :=
  .whenever fun kept => .bind (admits.performs (within.persists kept)) fun _ =>
    .bind (admits.performs (within.persists kept)) fun _ =>
      .whenever fun _ => admits.attempts (within.persists kept)

theorem recordSuccess_stays (admits : AdmitsScope contract ghost scope errors)
    (within : call.Within scope hasTokenCache) (result : LocalResultV1) :
    Stays contract ghost errors (recordSuccess code call strategy result) :=
  .whenever fun kept => .bind (admits.performs (within.persists kept)) fun _ =>
    .bind (.whenever fun _ => admits.attempts (within.persists kept)) fun _ =>
      .whenever fun _ => admits.performs (within.persists kept)

/-- A partial replay is due only where strategies are recorded, and never for a recorded path. -/
def TurnV1.Due (call : LocalExecutionV1) (strategy : LocalStrategyV1) (turn : TurnV1) : Prop :=
  ∀ state, turn = .missed state →
    call.suppressStrategyState = false ∧ strategy.tier ≠ .recordedPath

theorem TurnV1.due_answered (result : LocalResultV1) : (TurnV1.answered result).Due call strategy :=
  fun _ same => TurnV1.noConfusion same

theorem TurnV1.due_next (state : CascadeStateV1) : (TurnV1.next state).Due call strategy :=
  fun _ same => TurnV1.noConfusion same

theorem Due.pure {turn : TurnV1} (due : turn.Due call strategy) :
    (pure turn : LocalProgram TurnV1).Keeps contract
      (fun turn after => after = ghost ∧ turn.Due call strategy)
      (fun error after => after = ghost ∧ errors error) ghost :=
  (keeps_pure turn).mpr ⟨rfl, due⟩

theorem judgeResult_keeps (admits : AdmitsScope contract ghost scope errors)
    (within : call.Within scope hasTokenCache) (state : CascadeStateV1) (result : LocalResultV1) :
    (judgeResult code call strategy state result).Keeps contract
      (fun turn after => after = ghost ∧ turn.Due call strategy)
      (fun error after => after = ghost ∧ errors error) ghost := by
  have succeeds : (do
      recordSuccess code call strategy result
      return .answered result : LocalProgram TurnV1).Keeps contract
      (fun turn after => after = ghost ∧ turn.Due call strategy)
      (fun error after => after = ghost ∧ errors error) ghost := by
    rw [keeps_bind]
    exact (recordSuccess_stays admits within result).keeps
      (fun _ => Due.pure (TurnV1.due_answered result)) fun error expected => ⟨rfl, expected⟩
  unfold judgeResult
  split
  · exact Due.pure (TurnV1.due_answered result)
  · split
    · exact Due.pure (TurnV1.due_answered result)
    · exact Due.pure (TurnV1.due_answered result)
    · exact Due.pure (TurnV1.due_answered result)
    · rw [keeps_bind]
      refine (recordFailure_stays admits within strategy.tier).keeps (fun _ => ?_)
        fun error expected => ⟨rfl, expected⟩
      dsimp only
      split
      · next due => exact Due.pure fun _ _ => ⟨due.1, due.2.2⟩
      · exact Due.pure (TurnV1.due_next _)
    · exact succeeds
    · exact succeeds

theorem tryTier_keeps (admits : AdmitsScope contract ghost scope errors)
    (within : call.Within scope hasTokenCache) (sends : call.Sends scope)
    (fits : strategy.Fits scope hasPool call.suppressStrategyState
      call.suppressPersistedCookies)
    (below : BelowStays contract ghost errors scope execute) (state : CascadeStateV1) :
    (tryTier code execute hasPool hasTokenCache call strategy state).Keeps contract
      (fun turn after => after = ghost ∧ turn.Due call strategy)
      (fun error after => after = ghost ∧ errors error) ghost := by
  unfold tryTier
  rw [keeps_bind]
  refine (validateEnumArgs_stays admits within (below _ within.persists) _ _).keeps
    (fun unobserved => ?_) fun error expected => ⟨rfl, expected⟩
  split
  · exact Due.pure (TurnV1.due_next _)
  · rw [keeps_bind]
    refine (runTier_stays admits within sends fits below state.args).keeps (fun answer => ?_)
      fun error expected => ⟨rfl, expected⟩
    cases answer with
    | none => exact Due.pure (TurnV1.due_next _)
    | some result => exact judgeResult_keeps admits within state result

theorem turnFailure_keeps (admits : AdmitsScope contract ghost scope errors)
    (within : call.Within scope hasTokenCache) (state : CascadeStateV1) (error : LocalErrorV1) :
    (turnFailure call strategy.tier state error).Keeps contract
      (fun turn after => after = ghost ∧ turn.Due call strategy)
      (fun error after => after = ghost ∧ errors error) ghost := by
  unfold turnFailure
  split
  · exact Due.pure (TurnV1.due_answered _)
  · rw [keeps_bind]
    exact (recordFailure_stays admits within strategy.tier).keeps
      (fun _ => Due.pure (TurnV1.due_next _)) fun error expected => ⟨rfl, expected⟩

/-- The main request behind a partial replay stays in the scope. -/
theorem retryPrimary_stays (admits : AdmitsScope contract ghost scope errors)
    (within : call.Within scope hasTokenCache) (sends : call.Sends scope)
    (fits : strategy.Fits scope true false call.suppressPersistedCookies)
    (persists : scope.persists) (below : BelowStays contract ghost errors scope execute)
    (overHttp : ¬(strategy.tier = .fetch ∧ strategy.websocket.isSome = true))
    (page : strategy.tier ≠ .fetch → scope.account none)
    (args : CallArgs) {session : SessionV1} (drives : scope.Drives session) :
    Stays contract ghost errors
      (retryPrimary code execute hasTokenCache call strategy args session) := by
  have inPage (default : scope.account none) : Stays contract ghost errors
      (executeFetchInBrowser code execute strategy
        (call.strategyCall args hasTokenCache (.retry call.depth))) :=
    executeFetchInBrowser_stays admits within.tokens sends.retry (within.uses persists)
      ⟨persists, within.platform, default⟩ (below false fun _ => persists) fits.platforms
  refine .ite (fun isFetch => .bind ?_ fun _ => .bind (admits.performs drives) fun _ => .pure _)
    fun notFetch => .bind (admits.performs drives) fun _ => inPage (page notFetch)
  have noSocket : strategy.websocket = none := by
    cases socketed : strategy.websocket with
    | none => rfl
    | some socket => exact absurd ⟨isFetch, by rw [socketed]; rfl⟩ overHttp
  have fromNode : Stays contract ghost errors (executeFetchNode code strategy
      (call.strategyCall args hasTokenCache (.retry call.depth))
      (boundResolveCapabilityPrereq code execute call args false)
      call.suppressPersistedCookies) := by
    refine executeFetchNode_stays admits within.tokens within.prerequisite sends.retry ?_ ?_ ?_
    · intro prereq member isFetched
      exact within.uses persists
    · intro prereq member onCapability bound
      exact resolveCapabilityPrereq_stays admits (fun _ => persists) within.platform within.account
        (below false fun _ => persists) (fits.platforms prereq member) _ _ _
    · intro own kept
      exact within.uses persists
  unfold retryFetch Stays
  dsimp only
  rw [keeps_bind]
  refine (nodeOrSignal_keeps admits fromNode).mono ?_ fun _ _ same => same
  intro attempt after ⟨same, failed⟩
  subst same
  cases attempt with
  | inl result => rfl
  | inr signal => exact inPage (fits.fallback rfl isFetch noSocket (failed signal rfl)).2

theorem tryRevisitPartialReplay_stays (admits : AdmitsScope contract ghost scope errors)
    (within : call.Within scope hasTokenCache) (sends : call.Sends scope)
    (fits : strategy.Fits scope hasPool false call.suppressPersistedCookies)
    (persists : scope.persists) (below : BelowStays contract ghost errors scope execute)
    (notRecorded : strategy.tier ≠ .recordedPath) (strategies : List LocalStrategyV1)
    (args : CallArgs) :
    Stays contract ghost errors (LocalExecutionV1.tryRevisitPartialReplay code execute hasPool
      hasTokenCache call strategy strategies args) := by
  unfold LocalExecutionV1.tryRevisitPartialReplay
  split
  · next unit rest recorded anchored found =>
    refine replayRecordedPathToAnchor_bind admits sends.steps (within.uses persists)
      (fun _ expected => ⟨rfl, expected⟩) (Stays.pure _) fun session drives => ?_
    have page (notFetch : strategy.tier ≠ .fetch) : scope.account none := by
      refine (fits.page rfl ?_ (.inr ⟨rfl, by rw [anchored]; rfl⟩)).2
      cases tier : strategy.tier with
      | fetch => exact absurd tier notFetch
      | pageScript => rfl
      | recordedPath => exact absurd tier notRecorded
    show Stays contract ghost errors _
    refine .tryCatch (.ite (fun _ => .bind (admits.performs drives) fun _ => .pure _)
      fun overHttp => .bind ?_ fun _ => .ite (fun _ => .pure _) fun _ => .pure _)
      fun _ _ => .bind (admits.performs drives) fun _ => .pure _
    exact retryPrimary_stays admits within sends fits persists below overHttp page args drives
  · exact .pure _

theorem passesProbation_stays (admits : AdmitsScope contract ghost scope errors)
    (within : call.Within scope hasTokenCache) (tier : StrategyTier) :
    Stays contract ghost errors (passesProbation call tier) := by
  refine .ite (fun _ => .pure _) fun kept => ?_
  have persists := within.persists (by simpa using kept)
  refine .bind (admits.performs persists) fun probation => ?_
  cases probation with
  | run => exact .pure _
  | skip => exact .pure _
  | probe => exact .bind (admits.performs persists) fun _ => .pure _

/-- What a turn does once its tier has been tried performs only what it may. -/
theorem afterTier_stays (admits : AdmitsScope contract ghost scope errors)
    (within : call.Within scope hasTokenCache) (sends : call.Sends scope)
    (fits : strategy.Fits scope hasPool call.suppressStrategyState
      call.suppressPersistedCookies)
    (below : BelowStays contract ghost errors scope execute)
    (strategies : List LocalStrategyV1) (turn : TurnV1) : turn.Due call strategy →
    Stays contract ghost errors
      (match turn with
        | .missed missed => tryCatch
            (do
              let retried ← LocalExecutionV1.tryRevisitPartialReplay code execute hasPool
                hasTokenCache call strategy strategies missed.args
              return match retried with
                | some result => .answered result
                | none => .next missed)
            (turnFailure call strategy.tier missed)
        | other => return other : LocalProgram TurnV1) := by
  intro due
  cases turn with
  | answered result => exact .pure _
  | next after => exact .pure _
  | missed missed =>
    -- Only what the tier missed may be tried again, on the page that a revisit leaves.
    obtain ⟨kept, notRecorded⟩ := due missed rfl
    rw [kept] at fits
    refine .tryCatch (.bind (tryRevisitPartialReplay_stays admits within sends fits
      (within.persists kept) below notRecorded strategies missed.args) fun _ => .pure _)
      fun error _ => ?_
    exact (turnFailure_keeps admits within missed error).mono (fun _ _ same => same.1)
      fun _ _ same => same

/-- The turn of a fitting strategy stays in the scope. -/
theorem takeTurn_stays (admits : AdmitsScope contract ghost scope errors)
    (within : call.Within scope hasTokenCache) (sends : call.Sends scope)
    (fits : strategy.Fits scope hasPool call.suppressStrategyState
      call.suppressPersistedCookies)
    (below : BelowStays contract ghost errors scope execute) (strategies : List LocalStrategyV1)
    (state : CascadeStateV1) :
    Stays contract ghost errors
      (takeTurn code execute hasPool hasTokenCache call strategies strategy state) := by
  refine .bind (passesProbation_stays admits within _) fun passes => .ite (fun _ => ?_)
    fun _ => .pure _
  dsimp only
  refine .ite (fun _ => .pure _) fun _ => .ite (fun _ => .pure _) fun _ => ?_
  unfold Stays
  rw [keeps_bind, keeps_tryCatch]
  refine (tryTier_keeps admits within sends fits below _).mono ?_ ?_
  · rintro turn after ⟨same, due⟩
    subst same
    exact afterTier_stays admits within sends fits below strategies turn due
  · rintro error after ⟨same, expected⟩
    subst same
    refine (turnFailure_keeps admits within _ error).mono ?_ fun _ _ same => same
    rintro turn after ⟨same, due⟩
    subst same
    exact afterTier_stays admits within sends fits below strategies turn due

theorem cascade_stays (admits : AdmitsScope contract ghost scope errors)
    (within : call.Within scope hasTokenCache) (sends : call.Sends scope)
    (below : BelowStays contract ghost errors scope execute)
    (strategies : List LocalStrategyV1) {rest : List LocalStrategyV1}
    (fit : ∀ strategy ∈ rest, strategy.Fits scope hasPool call.suppressStrategyState
      call.suppressPersistedCookies) (state : CascadeStateV1) :
    Stays contract ghost errors
      (cascade code execute hasPool hasTokenCache call strategies rest state) := by
  induction rest generalizing state with
  | nil => exact .pure _
  | cons strategy rest ih =>
    refine .bind (takeTurn_stays admits within sends (fit strategy List.mem_cons_self) below
      strategies state) fun turn => ?_
    have others := ih fun other member => fit other (List.mem_cons_of_mem _ member)
    cases turn with
    | answered result => exact .pure _
    | next after => exact others after
    | missed after => exact others after

theorem authCapabilitiesOf_keeps (admits : AdmitsScope contract ghost scope errors) (target : Units)
    (prereq : StrategyPrereqV1) :
    (authCapabilitiesOf target prereq).Keeps contract
      (fun found after => after = ghost ∧ ∀ pair ∈ found, pair.1 = target)
      (fun error after => after = ghost ∧ errors error) ghost := by
  unfold authCapabilitiesOf
  split
  · next tag _ _ =>
    have asked : Stays contract ghost errors
      (attempts (.findCapabilitiesProviding target tag)) := admits.attempts trivial
    rw [keeps_bind]
    refine asked.keeps (fun providers => ⟨rfl, ?_⟩) fun error expected => ⟨rfl, expected⟩
    intro pair member
    obtain ⟨capability, _, rfl⟩ := List.mem_map.mp member
    rfl
  · next capability _ _ =>
    have loaded : Stays contract ghost errors (attempts (.loadStrategy target capability)) :=
      admits.attempts trivial
    rw [keeps_bind]
    refine loaded.keeps (fun saved => ⟨rfl, ?_⟩) fun error expected => ⟨rfl, expected⟩
    intro pair member
    split at member
    · rw [List.mem_singleton.mp member]
    · nomatch member
  · exact ⟨rfl, nofun⟩

/-- The capabilities that prerequisites sign in with are on platforms of the scope. -/
theorem collectAuth_keeps (admits : AdmitsScope contract ghost scope errors) {platform : Units}
    (onPlatform : scope.platform platform) {prerequisites : List StrategyPrereqV1}
    (targets : ∀ prereq ∈ prerequisites, ∀ target, prereq.platform = some target →
      scope.platform target) :
    (collectAuthProvidingPrereqCapabilities platform prerequisites).Keeps contract
      (fun found after => after = ghost ∧ ∀ pair ∈ found, scope.platform pair.1)
      (fun error after => after = ghost ∧ errors error) ghost := by
  induction prerequisites with
  | nil => exact ⟨rfl, fun _ member => absurd member List.not_mem_nil⟩
  | cons prereq rest ih =>
    have others := ih fun other member => targets other (List.mem_cons_of_mem _ member)
    unfold collectAuthProvidingPrereqCapabilities
    dsimp only
    have targeted := target_scope onPlatform (targets prereq List.mem_cons_self)
    rw [keeps_bind]
    refine (authCapabilitiesOf_keeps admits _ prereq).mono ?_ fun _ _ same => same
    rintro found after ⟨same, onTarget⟩
    subst same
    rw [keeps_bind]
    refine others.mono ?_ fun _ _ same => same
    rintro more after ⟨same, onScope⟩
    subst same
    refine ⟨rfl, fun pair member => ?_⟩
    rcases List.mem_append.mp (List.mem_dedup.mp member) with first | later
    · rw [onTarget pair first]
      exact targeted
    · exact onScope pair later

theorem evictAll_stays (admits : AdmitsScope contract ghost scope errors) (persists : scope.persists)
    {identity : Option Units} (forAccount : scope.account identity) {found : List (Units × Units)}
    (onScope : ∀ pair ∈ found, scope.platform pair.1) :
    Stays contract ghost errors (evictAll identity found) := by
  induction found with
  | nil => exact .pure _
  | cons pair rest ih =>
    refine .bind (admits.performs ⟨persists, onScope pair List.mem_cons_self, forAccount⟩)
      fun _ => ih fun other member => onScope other (List.mem_cons_of_mem _ member)

variable {again : Option (LocalProgram LocalResultV1)}

theorem maybeRetryAfterAuthWall_stays (admits : AdmitsScope contract ghost scope errors)
    (within : call.Within scope hasTokenCache) {strategies : List LocalStrategyV1}
    (targets : ∀ strategy ∈ strategies, ∀ prereq ∈ strategy.prerequisites, ∀ target, prereq.platform = some target → scope.platform target)
    (last : Option LocalResultV1)
    (second : ∀ program, again = some program → Stays contract ghost errors program) :
    Stays contract ghost errors (maybeRetryAfterAuthWall code call strategies last again) := by
  unfold maybeRetryAfterAuthWall
  split
  · next program found =>
    refine .ite (fun _ => ?_) fun _ => .pure _
    unfold Stays
    rw [keeps_bind]
    refine (collectAuth_keeps admits within.platform ?_).mono ?_ fun _ _ same => same
    · intro prereq member
      obtain ⟨strategy, saved, inside⟩ := List.mem_flatMap.mp member
      exact targets strategy saved prereq inside
    · intro found after ⟨same, onScope⟩
      subst same
      show Stays contract after errors _
      refine .ite (fun _ => .pure _) fun _ => .bind (.whenever fun kept => ?_) fun _ =>
        .bind (second program rfl) fun _ => .pure _
      exact evictAll_stays admits (within.persists kept) within.account onScope
  · exact .pure _

theorem allowedStrategies_keeps (admits : AdmitsScope contract ghost scope errors)
    (saved : List LocalStrategyV1) :
    (allowedStrategies call saved).Keeps contract
      (fun allowed after => after = ghost ∧ ∀ strategy ∈ allowed, strategy ∈ saved)
      (fun error after => after = ghost ∧ errors error) ghost := by
  induction saved with
  | nil => exact ⟨rfl, nofun⟩
  | cons strategy rest ih =>
    have asked : Stays contract ghost errors
      (attempts (.isTierAllowed call.platform call.capability strategy.tier)) :=
      admits.attempts trivial
    unfold allowedStrategies
    rw [keeps_bind]
    refine asked.keeps (fun isAllowed => ?_) fun error expected => ⟨rfl, expected⟩
    rw [keeps_bind]
    refine ih.mono ?_ fun _ _ same => same
    intro others after ⟨same, among⟩
    subst same
    refine ⟨rfl, fun other member => ?_⟩
    split at member
    · rcases List.mem_cons.mp member with rfl | member
      · exact List.mem_cons_self
      · exact List.mem_cons_of_mem _ (among other member)
    · exact List.mem_cons_of_mem _ (among other member)

/-- The strategies of an execution fit: those it is given, or else all that are relied on to be
saved. -/
def LocalExecutionV1.FindsFitting (contract : Contract localInterface γ) (ghost : γ)
    (scope : ExecutionScope) (hasPool : Bool) (call : LocalExecutionV1) : Prop :=
  match call.strategyOverride with
  | some given => ∀ strategy ∈ given, strategy.Fits scope hasPool
      call.suppressStrategyState call.suppressPersistedCookies
  | none => ∀ saved,
      contract.rely ghost (.risky (.loadStrategies call.platform call.capability)) (.ok saved) →
      ∀ strategy ∈ saved, strategy.Fits scope hasPool call.suppressStrategyState
        call.suppressPersistedCookies

theorem strategiesOf_keeps (admits : AdmitsScope contract ghost scope errors)
    (finds : call.FindsFitting contract ghost scope hasPool) :
    (strategiesOf call).Keeps contract
      (fun saved after => after = ghost ∧ ∀ strategy ∈ saved, strategy.Fits scope hasPool
        call.suppressStrategyState call.suppressPersistedCookies)
      (fun error after => after = ghost ∧ errors error) ghost := by
  unfold strategiesOf
  unfold LocalExecutionV1.FindsFitting at finds
  cases given : call.strategyOverride with
  | some strategies =>
    rw [given] at finds
    exact ⟨rfl, finds⟩
  | none =>
    rw [given] at finds
    have allowed := admits.allowed
      (.risky (.loadStrategies call.platform call.capability)) trivial
    unfold attempts
    dsimp only
    rw [keeps_bind, keeps_perform]
    refine ⟨allowed.1, fun answer relied => ?_⟩
    rw [allowed.2 answer relied]
    cases answer with
    | ok saved => exact ⟨rfl, finds saved relied⟩
    | error error => exact ⟨rfl, admits.thrown _ error relied⟩

/-- An execution whose strategies fit stays in the scope when the second pass does. -/
theorem executeOnce_stays (admits : AdmitsScope contract ghost scope errors)
    (within : call.Within scope hasTokenCache) (sends : call.Sends scope)
    (finds : call.FindsFitting contract ghost scope hasPool)
    (below : BelowStays contract ghost errors scope execute)
    (finalizeCascadeFailure : CallArgs → CascadeStateV1 → LocalResultV1)
    (second : ∀ program, again = some program → Stays contract ghost errors program) :
    Stays contract ghost errors
      (executeOnce code execute finalizeCascadeFailure hasPool hasTokenCache call again) := by
  refine .ite (fun _ => .pure _) fun _ => .bind (admits.attempts within.account) fun profile =>
    .bind (admits.attempts trivial) fun forbidden => .ite (fun _ => .pure _) fun _ => ?_
  unfold Stays
  rw [keeps_bind]
  refine (strategiesOf_keeps admits finds).mono ?_ fun _ _ same => same
  intro saved after ⟨same, fit⟩
  subst same
  rw [keeps_bind]
  refine (allowedStrategies_keeps admits saved).mono ?_ fun _ _ same => same
  intro strategies after ⟨same, among⟩
  subst same
  show Stays contract after errors _
  refine .ite (fun _ => .ite (fun _ => .throw (admits.own _ nofun)) fun _ => .pure _) fun _ =>
    .bind (cascade_stays admits within sends below strategies
      (fun strategy member => fit strategy (among strategy member)) _) fun ended => ?_
  cases ended with
  | inl result => exact .pure _
  | inr state =>
    dsimp only
    split
    · exact .pure _
    · refine .bind (maybeRetryAfterAuthWall_stays admits within ?_ _ second) fun retried => ?_
      · intro strategy member
        exact (fit strategy (among strategy member)).platforms
      · split
        · exact .pure _
        · exact .pure _

/-- An execution with all that it executes stays in its scope, when its strategies fit and those that
it finds below it do. -/
theorem executeNested_stays (admits : AdmitsScope contract ghost scope errors)
    (roles : ∀ depth, 0 < depth →
      scope.role (.main depth) ∧ scope.role (.retry depth) ∧ scope.steps (.main depth))
    (found : ∀ platform capability saved,
      contract.rely ghost (.risky (.loadStrategies platform capability)) (.ok saved) →
      ∀ strategy ∈ saved, ∀ suppressStrategyState,
        (suppressStrategyState = false → scope.persists) →
        strategy.Fits scope hasPool suppressStrategyState false)
    (finalizeCascadeFailure : CallArgs → CascadeStateV1 → LocalResultV1) {nesting : Nat}
    {call : LocalExecutionV1} (within : call.Within scope hasTokenCache) (sends : call.Sends scope)
    (finds : call.FindsFitting contract ghost scope hasPool) :
    Stays contract ghost errors
      (executeNested code finalizeCascadeFailure hasPool hasTokenCache nesting call) := by
  -- The induction follows the nesting: what an execution executes is one below it.
  induction nesting generalizing call with
  | zero => exact .throw (admits.own _ nofun)
  | succ nesting ih =>
    have below : BelowStays contract ghost errors scope fun sub =>
        executeNested code finalizeCascadeFailure hasPool hasTokenCache nesting {
          platform := sub.platform, capability := sub.capability, args := sub.args
          depth := sub.depth, identity := sub.identity, strategyOverride := none
          suppressStrategyState := sub.suppressStrategyState,
          suppressPersistedCookies := false } := by
      intro suppressStrategyState persists sub onPlatform forAccount suppressed deeper
      obtain ⟨main, retry, steps⟩ := roles sub.depth deeper
      refine ih ⟨onPlatform, forAccount, within.prerequisite, ?_, within.tokens⟩
        ⟨main, retry, steps⟩ ?_
      · intro kept
        exact persists (suppressed ▸ kept)
      · intro saved relied strategy member
        exact found _ _ saved relied strategy member _ fun kept => persists (suppressed ▸ kept)
    refine executeOnce_stays admits within sends finds below finalizeCascadeFailure ?_
    intro program same
    cases same
    refine executeOnce_stays admits within sends finds below finalizeCascadeFailure ?_
    intro program same
    nomatch same

end

end Klura
