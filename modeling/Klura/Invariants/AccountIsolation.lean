import Klura.Execution.Runtime
import Klura.Invariants.CascadeOperations

/-! What executions for one account have to do with those for another. -/

namespace Klura

open Interaction

/-- Whether what is kept under a key is kept for an account; health records and strategies are kept
for all accounts. -/
def StoreKeyV1.isOfAccounts : StoreKeyV1 → Bool
  | .jar _ | .session .. | .results .. | .token .. => true
  | .health .. | .strategies _ => false

/-- What an operation reads of what is kept for accounts. -/
def LocalOpV1.accountReads (op : LocalOpV1) : List StoreKeyV1 :=
  op.reads.filter StoreKeyV1.isOfAccounts

/-- What an operation writes of what is kept for accounts. -/
def LocalOpV1.accountWrites (op : LocalOpV1) : List StoreKeyV1 :=
  op.writes.filter StoreKeyV1.isOfAccounts

/-- An execution in a history, with how its operations are answered. -/
structure HistoryEntryV1 (Value : Type) where
  call : LocalExecutionV1
  behaviour : Behaviour localInterface StoreKeyV1 Value

/-- The account of an execution. -/
def HistoryEntryV1.account {Value : Type} (entry : HistoryEntryV1 Value) : Units :=
  identityName entry.call.identity

/-- The run of an execution on what is kept for accounts. -/
def HistoryEntryV1.run {Value : Type} (runtime : LocalRuntimeV1) (entry : HistoryEntryV1 Value)
    (store : StoreKeyV1 → Value) :
    Ran localInterface LocalErrorV1 LocalResultV1 (Footprint localInterface StoreKeyV1 Value) :=
  runOn LocalOpV1.accountReads LocalOpV1.accountWrites entry.behaviour
    (runtime.execute entry.call) store

/-- What is kept behind a history of executions. -/
def LocalRuntimeV1.storeAfter {Value : Type} (runtime : LocalRuntimeV1)
    (history : List (HistoryEntryV1 Value)) (store : StoreKeyV1 → Value) : StoreKeyV1 → Value :=
  history.foldl (fun store entry => (entry.run runtime store).world.store) store

/-- A name of a platform that the file of no other account's jar starts with. -/
def IsPlainPlatform (platform : Units) : Prop := ¬ascii "--" <:+: platform

/-- Whether what is kept under a key is kept for an account, on any platform with a plain name. -/
def StoreKeyV1.IsOf (account : Units) : StoreKeyV1 → Prop
  | .jar file => ∃ platform, IsPlainPlatform platform ∧
      file = storageStatePath platform (some account)
  | .session _ identity => identity = account
  | .results _ identity _ => identity = account
  | .token .. | .health .. | .strategies _ => False

/-- What an execution for an account uses: what is kept for it, on platforms with plain names. Only
the default account can do without a page where Node's transport fails. -/
def accountScope (hasPool : Bool) (account : Units) : ExecutionScope where
  platform := IsPlainPlatform
  account identity := identityName identity = account
  role _ := True
  steps _ := True
  persists := True
  tokens := False
  httpFails := hasPool = true → account = ascii "default"
  socketFails := True

/-- An operation is one for an account: whatever account it names is that one. -/
def LocalOpV1.IsFor (account : Units) (op : LocalOpV1) : Prop :=
  op.Within { accountScope false account with
    platform := fun _ => True, tokens := True }

/-- An execution for one account keeps apart from another: on two stores it sends and returns the
same, everything that it performs is for its own account, and nothing that it reads or writes is the
other's. -/
def HistoryEntryV1.KeepsApart {Value : Type} (runtime : LocalRuntimeV1)
    (entry : HistoryEntryV1 Value) (other : Units) (left right : StoreKeyV1 → Value) : Prop :=
  (entry.run runtime left).events = (entry.run runtime right).events ∧
    (entry.run runtime left).outcome = (entry.run runtime right).outcome ∧
    ∀ event ∈ (entry.run runtime left).events, event.op.IsFor entry.account ∧
      ∀ key ∈ event.op.accountReads ++ event.op.accountWrites, ¬key.IsOf other

/-- A strategy passes on the account that it is executed for: nothing that drops it is on its way. -/
structure LocalStrategyV1.PassesAccount (hasPool : Bool) (strategy : LocalStrategyV1) : Prop where
  /-- The prerequisites of a web socket are fetched from Node for the default account. -/
  fetched : strategy.tier = .fetch → strategy.websocket.isSome = true →
    ∀ prereq ∈ strategy.prerequisites, ¬prereq.isFetched
  /-- A main request from a page saves the cookies in the jar of the default account. -/
  page : hasPool = true → strategy.tier = .pageScript →
    strategy.websocket.isSome = true ∧ strategy.anchor = none
  /-- The capabilities that a page depends on are executed for the default account. -/
  sessions : hasPool = true → strategy.tier ≠ .fetch ∨ strategy.websocket.isSome = true →
    ∀ prereq ∈ strategy.prerequisites, ¬prereq.isOnCapability

/-- A strategy may be executed for an account: the platforms it names are plain, and it passes an
account on that is not the default one. -/
def LocalStrategyV1.IsForAccount (hasPool : Bool) (account : Units) (strategy : LocalStrategyV1) :
    Prop :=
  (∀ prereq ∈ strategy.prerequisites, ∀ target, prereq.platform = some target →
    IsPlainPlatform target) ∧
  (account ≠ ascii "default" → strategy.PassesAccount hasPool)

/-- An execution for an account: the strategies it finds are for the account, a session that is found
ready is its own, and where it is not the default one and there is a pool to fall back on, Node's
transport over HTTP does not fail. -/
def accountContract (hasPool : Bool) (account : Units) : Contract localInterface Unit where
  rely _ op answer :=
    FindsOnly (LocalStrategyV1.IsForAccount hasPool account) op answer ∧
      BorrowsOnly (fun owner => identityName owner = account) op answer ∧
      (account ≠ ascii "default" → hasPool = true → HttpHolds op answer)
  guard _ op := op.Within (accountScope hasPool account)
  after _ _ _ := ()

/-- An execution keeps to its account: its names are plain, the strategies it is given are for the
account, and its run is answered so. -/
structure HistoryEntryV1.KeepsAccount {Value : Type} (runtime : LocalRuntimeV1)
    (entry : HistoryEntryV1 Value) (store : StoreKeyV1 → Value) : Prop where
  platform : IsPlainPlatform entry.call.platform
  account : (45 : UInt16) ∉ entry.account
  given : ∀ strategies, entry.call.strategyOverride = some strategies →
    ∀ strategy ∈ strategies, strategy.IsForAccount runtime.hasPool entry.account
  relied : (accountContract runtime.hasPool entry.account).Relied ()
    (entry.run runtime store).events

/-- Every execution of a history keeps to its account. -/
def LocalRuntimeV1.KeepsAccounts {Value : Type} (runtime : LocalRuntimeV1) :
    List (HistoryEntryV1 Value) → (StoreKeyV1 → Value) → Prop
  | [], _ => True
  | entry :: rest, store =>
    entry.KeepsAccount runtime store ∧
      runtime.KeepsAccounts rest (entry.run runtime store).world.store

theorem behind_last_hyphen {before before' name name' : Units}
    (same : before ++ 45 :: name = before' ++ 45 :: name') (plain : (45 : UInt16) ∉ name)
    (plain' : (45 : UInt16) ∉ name') : name = name' := by
  have behind (before name : Units) (plain : (45 : UInt16) ∉ name) :
      (before ++ 45 :: name).reverse.takeWhile (fun unit => unit ≠ 45) = name.reverse := by
    have every : ∀ unit ∈ name.reverse, (decide (unit ≠ 45)) = true := by
      intro unit member
      simp only [List.mem_reverse] at member
      exact decide_eq_true fun hyphen => plain (hyphen ▸ member)
    simp only [List.reverse_append, List.reverse_cons, List.append_assoc, List.cons_append,
      List.nil_append]
    rw [List.takeWhile_append_of_pos every]
    simp
  have reversed : name.reverse = name'.reverse := by
    rw [← behind before name plain, ← behind before' name' plain', same]
  exact List.reverse_injective reversed

theorem identityName_self (identity : Option Units) :
    identityName (some (identityName identity)) = identityName identity := by
  match identity with
  | none => rfl
  | some [] => rfl
  | some (unit :: rest) => rfl

theorem storageStatePath_name (platform : Units) (identity : Option Units) :
    storageStatePath platform (some (identityName identity)) =
      storageStatePath platform identity := by
  unfold storageStatePath
  rw [identityName_self]

variable {first second : Option Units}

theorem storageStatePath_account {platform platform' : Units} (plain : IsPlainPlatform platform)
    (plain' : IsPlainPlatform platform') (noHyphen : (45 : UInt16) ∉ identityName first)
    (noHyphen' : (45 : UInt16) ∉ identityName second)
    (same : storageStatePath platform first = storageStatePath platform' second) :
    identityName first = identityName second := by
  have inside (base name : Units) : ascii "--" <:+: base ++ ascii "--" ++ name :=
    ⟨base, name, rfl⟩
  unfold storageStatePath at same
  -- Only the jars of other accounts have hyphens behind the platform.
  by_cases default : identityName first = ascii "default"
  · by_cases default' : identityName second = ascii "default"
    · rw [default, default']
    · rw [if_pos default, if_neg default'] at same
      exact absurd (List.append_cancel_right same ▸ inside platform' _) plain
  · by_cases default' : identityName second = ascii "default"
    · rw [if_neg default, if_pos default'] at same
      exact absurd ((List.append_cancel_right same).symm ▸ inside platform _) plain'
    · rw [if_neg default, if_neg default'] at same
      have names := List.append_cancel_right same
      have hyphens (base name : Units) :
          base ++ ascii "--" ++ name = (base ++ [45]) ++ 45 :: name := by
        have both : ascii "--" = [45, 45] := rfl
        simp [both]
      rw [hyphens, hyphens] at names
      exact behind_last_hyphen names noHyphen noHyphen'

theorem StoreKeyV1.IsOf.unique {key : StoreKeyV1} (isFirst : key.IsOf (identityName first))
    (isSecond : key.IsOf (identityName second)) (noHyphen : (45 : UInt16) ∉ identityName first)
    (noHyphen' : (45 : UInt16) ∉ identityName second) :
    identityName first = identityName second := by
  cases key with
  | jar file =>
    obtain ⟨platform, plain, named⟩ := isFirst
    obtain ⟨platform', plain', named'⟩ := isSecond
    rw [storageStatePath_name] at named named'
    exact storageStatePath_account plain plain' noHyphen noHyphen' (named.symm.trans named')
  | session platform identity => exact isFirst.symm.trans isSecond
  | results platform identity capability => exact isFirst.symm.trans isSecond
  | token => exact absurd isFirst id
  | health => exact absurd isFirst id
  | strategies => exact absurd isFirst id

theorem jarOf_isOf {platform : Units} {identity : Option Units} {account : Units}
    (plain : IsPlainPlatform platform) (named : identityName identity = account) :
    (jarOf platform identity).IsOf account := by
  subst named
  exact ⟨platform, plain, (storageStatePath_name platform identity).symm⟩

variable {hasPool : Bool} {account : Units}

variable {op : LocalOpV1}

/-- What an operation of an execution for an account reads, of what is kept for accounts, is kept for
it. -/
theorem accountReads_isOf (allowed : op.Within (accountScope hasPool account)) :
    ∀ key ∈ op.accountReads, key.IsOf account := by
  intro key member
  obtain ⟨touched, kept⟩ := List.mem_filter.mp member
  cases op with
  | sure op =>
    cases op with
    | shouldSkipBrokenTier | updateHealth | getHealthIsBroken | recordNodeTransportFailure =>
      cases List.mem_singleton.mp touched
      nomatch kept
    | tokenGet => exact absurd allowed id
    | capabilityCacheGet | capabilityCacheSet | evictForCapability =>
      cases List.mem_singleton.mp touched
      exact allowed.2.2
    | readStorageStateCookies | writeStorageStateCookies | loadStorageStatePath =>
      cases List.mem_singleton.mp touched
      exact jarOf_isOf allowed.2.1 allowed.2.2
    | sendNodeRequest | readBody | sendNodeWebSocketFrame => nomatch touched
    | getUrl | waitForWsOpen | endDriveQuietly =>
      cases List.mem_singleton.mp touched
      exact allowed.2.2
  | risky op =>
    cases op with
    | loadStrategies | loadStrategy | findCapabilitiesProviding | isTierAllowed | archiveStrategy
    | demoteFetchToPageScript | stampPostSaveValidationProof =>
      cases List.mem_singleton.mp touched
      nomatch kept
    | isCapabilityForbidden | getIdentity | acquirePermit | releasePermit => nomatch touched
    | tokenSet => exact absurd allowed id
    | saveStorageState =>
      cases List.mem_singleton.mp touched
      exact jarOf_isOf allowed.2.1 allowed.2.2
    | driverSaveStorageState =>
      rcases List.mem_cons.mp touched with rfl | touched
      · exact allowed.1.2.2
      · cases List.mem_singleton.mp touched
        exact jarOf_isOf allowed.2.2.1 allowed.2.2.2
    | createSession =>
      rcases List.mem_cons.mp touched with rfl | touched
      · exact allowed.2.2
      · cases List.mem_singleton.mp touched
        exact jarOf_isOf allowed.2.1 allowed.2.2
    | tryCheckoutReadySession | runBrowserPrereq | fireInterrupts | navigate | htmlToAriaLikeTree
    | runWsOpenSteps | evaluateFrame | waitForAck | endDrive =>
      cases List.mem_singleton.mp touched
      exact allowed.2.2
    | fetchInBrowser | sendWebSocketFrame | executeSteps | replayStep =>
      cases List.mem_singleton.mp touched
      exact allowed.1.2.2

theorem LocalOpV1.writes_reads {key : StoreKeyV1} (written : key ∈ op.writes) :
    key ∈ op.reads := by
  cases op with
  | sure op => cases op <;> first | exact written | exact absurd written List.not_mem_nil
  | risky op => cases op <;> first | exact written | exact absurd written List.not_mem_nil

/-- What an operation of an execution for an account writes, of what is kept for accounts, is kept for
it. -/
theorem accountWrites_isOf (allowed : op.Within (accountScope hasPool account)) :
    ∀ key ∈ op.accountWrites, key.IsOf account := by
  intro key member
  obtain ⟨written, kept⟩ := List.mem_filter.mp member
  exact accountReads_isOf allowed key
    (List.mem_filter.mpr ⟨LocalOpV1.writes_reads written, kept⟩)

/-- The errors of an execution for an account: Node's transport is one of them only for the default
account, or without a pool. -/
def accountError (hasPool : Bool) (account : Units) (error : LocalErrorV1) : Prop :=
  account ≠ ascii "default" → hasPool = true → ∀ signal, error ≠ .transportFailure signal

theorem accountContract_admits (hasPool : Bool) (account : Units) :
    AdmitsScope (accountContract hasPool account) () (accountScope hasPool account)
      (accountError hasPool account) where
  allowed op within := ⟨within, fun _ _ => rfl⟩
  thrown op error relied named pool signal same := relied.2.2 named pool signal (by rw [same])
  own error plain _ _ := plain
  signals role workload request cause message dispatches signal relied classified named pool := by
    have holds : classifyFetchThrow cause = none :=
      relied.2.2 named pool cause message dispatches rfl
    rw [holds] at classified
    nomatch classified
  failures signal expected pool := by
    by_contra named
    exact expected named pool signal rfl
  frames _ _ _ _ _ _ _ _ _ := trivial
  borrowed platform identity url wsUrl id owner _ relied := relied.2.1 id owner rfl

theorem LocalStrategyV1.IsForAccount.fits {strategy : LocalStrategyV1}
    (isFor : strategy.IsForAccount hasPool account) (suppressStrategyState : Bool)
    (withoutPersistedCookies : Bool) :
    strategy.Fits (accountScope hasPool account) hasPool suppressStrategyState
      withoutPersistedCookies := by
  obtain ⟨platforms, passes⟩ := isFor
  by_cases named : account = ascii "default"
  · exact LocalStrategyV1.fits_open trivial named.symm platforms
  · have passed := passes named
    refine ⟨platforms, ?_, fun _ _ _ _ _ => trivial, fun _ _ _ _ => trivial, ?_, ?_, ?_⟩
    · intro isFetch prereq member isFetched
      exact ⟨trivial, fun overSocket =>
        absurd isFetched (passed.fetched isFetch overSocket prereq member)⟩
    · intro pool _ _ fails
      exact absurd (fails pool) named
    · intro pool isPage needed
      obtain ⟨overSocket, unanchored⟩ := passed.page pool isPage
      rcases needed with overHttp | ⟨_, anchored⟩
      · rw [overHttp] at overSocket
        nomatch overSocket
      · rw [unanchored] at anchored
        nomatch anchored
    · intro pool needed
      refine ⟨trivial, fun prereq member onCapability => ?_⟩
      exact absurd onCapability (passed.sessions pool (needed.imp id And.left) prereq member)

variable {Value : Type} {runtime : LocalRuntimeV1}

variable {entry : HistoryEntryV1 Value}

theorem HistoryEntryV1.KeepsAccount.stays {store : StoreKeyV1 → Value}
    (noTokens : runtime.hasTokenCache = false) (keeps : entry.KeepsAccount runtime store) :
    Stays (accountContract runtime.hasPool entry.account) ()
      (accountError runtime.hasPool entry.account) (runtime.execute entry.call) := by
  have tokens (cached : runtime.hasTokenCache = true) : False := by
    rw [noTokens] at cached
    nomatch cached
  refine executeNested_stays (accountContract_admits _ _) (fun _ _ => ⟨trivial, trivial, trivial⟩) ?_ _
    ⟨keeps.platform, rfl, trivial, fun _ => trivial, tokens⟩ ⟨trivial, trivial, trivial⟩ ?_
  · intro platform capability saved found strategy member suppressStrategyState _
    exact LocalStrategyV1.IsForAccount.fits (found.1 saved rfl strategy member) _ _
  · unfold LocalExecutionV1.FindsFitting
    split
    · next strategies overrides =>
      exact fun strategy member =>
        LocalStrategyV1.IsForAccount.fits (keeps.given strategies overrides strategy member) _ _
    · intro saved found strategy member
      exact LocalStrategyV1.IsForAccount.fits (found.1 saved rfl strategy member) _ _

theorem isFor_of_within (allowed : op.Within (accountScope hasPool account)) :
    op.IsFor account := by
  have uses {platform : Units} {identity : Option Units}
      (used : (accountScope hasPool account).Uses platform identity) :
      ({ accountScope false account with platform := fun _ => True, tokens := True } :
        ExecutionScope).Uses platform identity := ⟨trivial, trivial, used.2.2⟩
  cases op with
  | sure op =>
    cases op with
    | shouldSkipBrokenTier | updateHealth | getHealthIsBroken | recordNodeTransportFailure
    | tokenGet | sendNodeRequest | readBody | sendNodeWebSocketFrame => trivial
    | capabilityCacheGet | capabilityCacheSet | evictForCapability | readStorageStateCookies
    | writeStorageStateCookies | loadStorageStatePath | getUrl | waitForWsOpen
    | endDriveQuietly => exact uses allowed
  | risky op =>
    cases op with
    | loadStrategies | loadStrategy | findCapabilitiesProviding | isTierAllowed | archiveStrategy
    | demoteFetchToPageScript | stampPostSaveValidationProof | isCapabilityForbidden
    | acquirePermit | releasePermit | tokenSet => trivial
    | getIdentity => exact allowed
    | saveStorageState | createSession | tryCheckoutReadySession | runBrowserPrereq
    | fireInterrupts | navigate | htmlToAriaLikeTree | runWsOpenSteps | evaluateFrame | waitForAck
    | endDrive => exact uses allowed
    | driverSaveStorageState => exact ⟨uses allowed.1, uses allowed.2⟩
    | fetchInBrowser | sendWebSocketFrame | executeSteps | replayStep =>
      exact ⟨uses allowed.1, trivial⟩

/-- Two stores agree on all that is not kept for an account. -/
def AgreeBut (other : Units) (left right : StoreKeyV1 → Value) : Prop :=
  ∀ key : StoreKeyV1, ¬key.IsOf other → left key = right key

variable {left right : StoreKeyV1 → Value} {other : Option Units}

/-- An execution for one account runs alike on stores that agree on all that is not another's, and
leaves them so. -/
theorem HistoryEntryV1.KeepsAccount.alike (noTokens : runtime.hasTokenCache = false)
    (keeps : entry.KeepsAccount runtime left) (plain : (45 : UInt16) ∉ identityName other)
    (differ : entry.account ≠ identityName other) (agree : AgreeBut (identityName other) left right) :
    (entry.run runtime right).events = (entry.run runtime left).events ∧
      (entry.run runtime right).outcome = (entry.run runtime left).outcome ∧
      AgreeBut (identityName other) (entry.run runtime left).world.store
        (entry.run runtime right).world.store := by
  refine runOn_agrees (I := localInterface) LocalOpV1.accountReads LocalOpV1.accountWrites
    entry.behaviour (keeps.stays noTokens) ?_ agree keeps.relied
  intro _ op allowed key member isOther
  exact differ ((accountReads_isOf allowed key member).unique isOther keeps.account plain)

theorem HistoryEntryV1.KeepsAccount.leaves {entry : HistoryEntryV1 Value}
    {store : StoreKeyV1 → Value} (noTokens : runtime.hasTokenCache = false)
    (keeps : entry.KeepsAccount runtime store) :
    AgreeBut entry.account (entry.run runtime store).world.store store := by
  intro key notOf
  refine runOn_leaves (I := localInterface) LocalOpV1.accountReads LocalOpV1.accountWrites
    entry.behaviour (keeps.stays noTokens) ?_ keeps.relied
  intro _ op allowed written
  exact notOf (accountWrites_isOf allowed key written)

theorem storeAfter_without {history : List (HistoryEntryV1 Value)}
    (noTokens : runtime.hasTokenCache = false) (keeps : runtime.KeepsAccounts history left)
    (plain : (45 : UInt16) ∉ identityName other) (agree : AgreeBut (identityName other) left right) :
    AgreeBut (identityName other) (runtime.storeAfter history left)
      (runtime.storeAfter (history.filter fun entry => entry.account ≠ identityName other)
        right) := by
  -- The histories go on together, except at executions for the account.
  induction history generalizing left right with
  | nil => exact agree
  | cons entry rest ih =>
    obtain ⟨keepsFirst, keepsRest⟩ := keeps
    by_cases isOther : entry.account = identityName other
    · rw [List.filter_cons_of_neg (by simp [isOther])]
      refine ih keepsRest fun key notOf => ?_
      exact (keepsFirst.leaves noTokens key (isOther ▸ notOf)).trans (agree key notOf)
    · rw [List.filter_cons_of_pos (by simp [isOther])]
      exact ih keepsRest (keepsFirst.alike noTokens plain isOther agree).2.2

/-- An execution for an account of a plain shop, where strategies are saved. -/
def shopEntry (identity : Option Units) (saved : List LocalStrategyV1) : HistoryEntryV1 Bool where
  call := plainExecution identity
  behaviour := plainBehaviour saved

theorem shop_isPlain : IsPlainPlatform (ascii "shop") := by
  unfold IsPlainPlatform
  decide

theorem shopEntry_keepsAccount (identity : Option Units)
    (noHyphen : (45 : UInt16) ∉ identityName identity) (store : StoreKeyV1 → Bool) :
    (shopEntry identity [plainLocalStrategy .fetch]).KeepsAccount (plainRuntime "GET" true) store := by
  have isFor : (plainLocalStrategy .fetch).IsForAccount true (identityName identity) := by
    refine ⟨fun prereq member => ?_, fun _ => ⟨fun _ overSocket => ?_, fun _ isPage => ?_,
      fun _ _ prereq member => ?_⟩⟩
    · nomatch member
    · nomatch overSocket
    · nomatch isPage
    · nomatch member
  refine ⟨shop_isPlain, noHyphen, ?_, relied_of_answers ?_ _ _ _⟩
  · intro strategies given
    nomatch given
  intro _ _ op
  cases op with
  | sure op =>
    refine ⟨trivial, trivial, fun _ _ => ?_⟩
    cases op <;> first | trivial | nofun
  | risky op =>
    refine ⟨?_, ?_, fun _ _ => nofun⟩
    · cases op <;> first
        | trivial
        | (intro saved same strategy member
           cases same
           cases List.mem_singleton.mp member
           exact isFor)
    · cases op <;> first | trivial | nofun

end Klura
