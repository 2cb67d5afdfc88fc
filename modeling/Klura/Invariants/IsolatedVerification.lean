import Klura.Execution.Runtime
import Klura.Invariants.CascadeOperations

/-! A verification without the state of strategies and without persisted cookies. -/

namespace Klura

open Interaction

/-- An execution of given strategies that suppresses the state of strategies and persisted cookies. -/
def LocalExecutionV1.isVerification (call : LocalExecutionV1) : Prop :=
  call.strategyOverride.isSome = true ∧ call.suppressStrategyState = true ∧
    call.suppressPersistedCookies = true

/-- Whether a verification must not see what is kept under a key: jars and cached results. -/
def StoreKeyV1.isHidden : StoreKeyV1 → Bool
  | .jar _ | .results .. => true
  | _ => false

/-- Whether a verification must leave what is kept under a key: what it must not see, the health
records with the failures of Node's transport, and the strategies with their proofs. -/
def StoreKeyV1.isLeft : StoreKeyV1 → Bool
  | .jar _ | .results .. | .health .. | .strategies _ => true
  | _ => false

/-- A run of an execution has no hidden inputs and no effects: it sends and returns the same whatever
the jars and the cache hold, and it leaves them, the health records and the strategies. -/
def LocalRuntimeV1.Isolates {Value : Type} (runtime : LocalRuntimeV1)
    (behaviour : Behaviour localInterface StoreKeyV1 Value) (call : LocalExecutionV1)
    (store : StoreKeyV1 → Value) : Prop :=
  (∀ other : StoreKeyV1 → Value, (∀ key, key.isHidden = false → store key = other key) →
    (runtime.runsOn behaviour call other).events = (runtime.runsOn behaviour call store).events ∧
      (runtime.runsOn behaviour call other).outcome =
        (runtime.runsOn behaviour call store).outcome) ∧
  ∀ key, key.isLeft = true → (runtime.runsOn behaviour call store).world.store key = store key

/-- A strategy needs neither jars, nor sessions, nor the cache: it is not fetched in a page, and what
it depends on is cached, or executed without the state of strategies. -/
structure LocalStrategyV1.IsIsolated (hasPool withoutPersistedCookies : Bool)
    (strategy : LocalStrategyV1) : Prop where
  tier : hasPool = true → strategy.tier = .fetch
  prerequisites : strategy.tier = .fetch → ∀ prereq ∈ strategy.prerequisites,
    prereq.kind = .cached ∨ prereq.isOnCapability ∧ strategy.websocket = none
  /-- Below a verification the main request takes persisted cookies with it. -/
  cookies : strategy.tier = .fetch → strategy.websocket = none → strategy.responseFrom = none →
    withoutPersistedCookies = true

/-- What an isolated verification uses. -/
def isolatedScope (hasPool : Bool) : ExecutionScope where
  platform _ := True
  account _ := True
  role _ := True
  steps _ := True
  persists := False
  tokens := True
  httpFails := hasPool = false
  socketFails := hasPool = false

/-- An isolated verification: what is found below it is isolated, and where there is a pool to fall
back on, Node's transport does not fail. -/
def isolation (hasPool : Bool) : Contract localInterface Unit where
  rely _ op answer :=
    FindsOnly (LocalStrategyV1.IsIsolated hasPool false) op answer ∧
      (hasPool = true → HttpHolds op answer ∧ SocketHolds op answer)
  guard _ op := op.Within (isolatedScope hasPool)
  after _ _ _ := ()

theorem isolation_reads {hasPool : Bool} {op : LocalOpV1}
    (allowed : op.Within (isolatedScope hasPool)) : ∀ key ∈ op.reads, key.isHidden = false := by
  cases op with
  | sure op =>
    cases op <;> first
      | exact absurd allowed.1 id
      | exact absurd allowed id
      | simp [LocalOpV1.reads, SureOpV1.reads, StoreKeyV1.isHidden]
  | risky op =>
    cases op <;> first
      | exact absurd allowed.1 id
      | exact absurd allowed.1.1 id
      | exact absurd allowed id
      | simp [LocalOpV1.reads, RiskyOpV1.reads, StoreKeyV1.isHidden]

theorem isolation_writes {hasPool : Bool} {op : LocalOpV1}
    (allowed : op.Within (isolatedScope hasPool)) : ∀ key ∈ op.writes, key.isLeft = false := by
  cases op with
  | sure op =>
    cases op <;> first
      | exact absurd allowed.1 id
      | exact absurd allowed id
      | simp [LocalOpV1.writes, SureOpV1.writes, SureOpV1.reads, StoreKeyV1.isLeft]
  | risky op =>
    cases op <;> first
      | exact absurd allowed.1 id
      | exact absurd allowed.1.1 id
      | exact absurd allowed id
      | simp [LocalOpV1.writes, RiskyOpV1.writes, RiskyOpV1.reads, StoreKeyV1.isLeft]

/-- The errors of an isolated verification: with a pool, none is that Node's transport fails. -/
def isolatedError (hasPool : Bool) (error : LocalErrorV1) : Prop :=
  hasPool = true → ∀ signal, error ≠ .transportFailure signal

theorem isolation_admits (hasPool : Bool) :
    AdmitsScope (isolation hasPool) () (isolatedScope hasPool) (isolatedError hasPool) where
  allowed op within := ⟨within, fun _ _ => rfl⟩
  thrown op error relied pool signal same := (relied.2 pool).1 signal (by rw [same])
  own error plain _ := plain
  signals role workload request cause message dispatches signal relied classified pool := by
    have holds : classifyFetchThrow cause = none := (relied.2 pool).1 cause message dispatches rfl
    rw [holds] at classified
    nomatch classified
  failures signal expected := by
    cases pool : hasPool with
    | false => exact (rfl : false = false)
    | true => exact absurd rfl (expected pool signal)
  frames role url headers frame ackMatch failure error relied broken := by
    cases pool : hasPool with
    | false => exact (rfl : false = false)
    | true =>
      have holds : isWebSocketTransportFailure failure = false := (relied.2 pool).2 failure error rfl
      rw [holds] at broken
      nomatch broken
  borrowed platform identity url wsUrl id owner _ _ := trivial

theorem LocalStrategyV1.IsIsolated.fits {hasPool withoutPersistedCookies : Bool}
    {strategy : LocalStrategyV1} (isolated : strategy.IsIsolated hasPool withoutPersistedCookies) :
    strategy.Fits (isolatedScope hasPool) hasPool true withoutPersistedCookies where
  platforms _ _ _ _ := trivial
  fetched isFetch prereq member isFetched := by
    rcases isolated.prerequisites isFetch prereq member with cached | ⟨onCapability, _⟩
    · exact absurd cached isFetched.1
    · exact absurd onCapability isFetched.2
  capabilities isFetch prereq member onCapability unsuppressed := by
    rcases isolated.prerequisites isFetch prereq member with cached | ⟨_, overHttp⟩
    · rcases onCapability with kind | kind
      · rw [kind] at cached
        nomatch cached
      · rw [kind] at cached
        nomatch cached
    · rw [overHttp] at unsuppressed
      rcases unsuppressed with same | same
      · nomatch same
      · nomatch same
  jar isFetch own overHttp kept := by
    rw [isolated.cookies isFetch overHttp own] at kept
    nomatch kept
  fallback pool _ _ fails := absurd (pool.symm.trans fails) nofun
  page pool isPage _ := absurd ((isolated.tier pool).symm.trans isPage) nofun
  sessions pool due := by
    rcases due with notFetch | ⟨_, fails | fails⟩
    · exact absurd (isolated.tier pool) notFetch
    · exact absurd (pool.symm.trans fails) nofun
    · exact absurd (pool.symm.trans fails) nofun

/-- A verification of a strategy of a plain shop that has a prerequisite. -/
def verificationOf (prereq : StrategyPrereqV1) : LocalExecutionV1 :=
  { plainExecution none with
    strategyOverride := some [{ plainLocalStrategy .fetch with prerequisites := [prereq] }]
    suppressStrategyState := true
    suppressPersistedCookies := true }

/-- A prerequisite of a kind with a URL of the shop. -/
def shopPrereq (kind : StrategyPrereqKind) : StrategyPrereqV1 where
  kind
  name := ascii "csrf"
  platform := none
  capability := none
  tag := none
  value := none
  url := some (ascii "https://shop.example/csrf")
  binds := none
  vars := some []
  optional := false
  ttl := none
  others := .null

/-- A behaviour of jars that hold a cookie or none. -/
def jarBehaviour : Behaviour localInterface StoreKeyV1 Bool
  | _, .sure (.readStorageStateCookies platform identity _), seen =>
    (if seen (jarOf platform identity) = some true then some (ascii "sid=1") else none,
      fun _ => false)
  | _, op, _ => (op.plainAnswer [], fun _ => false)

end Klura
