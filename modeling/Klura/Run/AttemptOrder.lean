import Klura.Run.State

/-! The order that serializes the chains of one dispatch batch. -/

namespace Klura

/-- Bytes allowed for the envelope around a buffered result. -/
def RESULT_ENVELOPE_BYTES_V1 : Nat := 1024

/-- The bytes one result may take while it is buffered. -/
def maximumBufferedResultBytes (capability : PublicReadCapabilityV1) : Nat :=
  capability.maxEncodedOutcomeBytes + RESULT_ENVELOPE_BYTES_V1

/-- The bytes one waiting chain may hold. -/
def maximumBufferedPageBytes (policy : ScrapeRunPolicyV1) (capability : PublicReadCapabilityV1) :
    Nat :=
  max (maximumBufferedResultBytes capability) policy.maxOutputBytes

/-- Limits concurrent chain results to the signed durable reordering budget. -/
def resolveBoundedAttemptConcurrency (env : RunEnvironment) : Nat :=
  let bytesPerWaitingAttempt := (env.capabilities.map fun capability =>
    maximumBufferedPageBytes env.policy capability.2).foldr max 0
  let waitingAttempts := env.policy.durable.maxReorderBufferBytes / bytesPerWaitingAttempt
  min env.policy.maxConcurrency (waitingAttempts + 1)

namespace AttemptOrderV1

/-- The order of a batch none of whose chains has started. -/
def initial : AttemptOrderV1 :=
  { nextAllocated := 0, nextCommit := 0, abortReason := none, waiters := [], settled := [] }

/-- The order once the next ordinal has been handed out. -/
def allocate (order : AttemptOrderV1) : AttemptOrderV1 :=
  { order with nextAllocated := order.nextAllocated + 1 }

/-- The order once a chain has asked for its turn. -/
def waitForTurn (order : AttemptOrderV1) (ordinal : Nat) : Except RunError AttemptOrderV1 :=
  if order.nextAllocated ≤ ordinal then .error (.attemptOrder "attempt ordinal was not allocated")
  else
    match order.abortReason with
    | some reason => .ok { order with settled := (ordinal, .rejected reason) :: order.settled }
    | none =>
      if ordinal = order.nextCommit then
        .ok { order with settled := (ordinal, .resolved) :: order.settled }
      else if ordinal ∈ order.waiters then
        .error (.attemptOrder "one attempt ordinal has more than one waiter")
      else .ok { order with waiters := ordinal :: order.waiters }

/-- The order once an unclassified error has ended one of its chains. -/
def abort (order : AttemptOrderV1) (reason : RunError) : AttemptOrderV1 :=
  match order.abortReason with
  | some _ => order
  | none =>
    { order with
      abortReason := some reason
      waiters := []
      settled := order.waiters.map (fun ordinal => (ordinal, .rejected reason)) ++ order.settled }

/-- The order once the chain whose turn it is has given it up. -/
def releaseTurn (order : AttemptOrderV1) (ordinal : Nat) : Except RunError AttemptOrderV1 :=
  if order.nextAllocated ≤ ordinal then .error (.attemptOrder "attempt ordinal was not allocated")
  else if ordinal ≠ order.nextCommit then
    .error (.attemptOrder "attempt ordinal is not the current commit turn")
  else
    let next := order.nextCommit + 1
    -- An aborted order has no waiters left to wake.
    if order.abortReason.isNone ∧ next ∈ order.waiters then
      .ok { order with
        nextCommit := next
        waiters := order.waiters.filter (· ≠ next)
        settled := (next, .resolved) :: order.settled }
    else .ok { order with nextCommit := next }

end AttemptOrderV1

/-- Hands out the next ordinal of the batch. -/
def allocateAttempt : RunProgram Nat := do
  let world ← get
  set { world with attemptOrder := world.attemptOrder.allocate }
  return world.attemptOrder.nextAllocated

/-- Asks for the turn of an ordinal. -/
def waitForTurn (ordinal : Nat) : RunProgram PUnit := do
  let world ← get
  match world.attemptOrder.waitForTurn ordinal with
  | .ok order => set { world with attemptOrder := order }
  | .error error => throw error

/-- Rejects every waiter of the batch. -/
def abortAttempts (reason : RunError) : RunProgram PUnit :=
  modify fun world => { world with attemptOrder := world.attemptOrder.abort reason }

/-- Releases only a chain that acquired its deterministic commit turn. -/
def releaseOwnedAttemptTurn (ordinal : Option Nat) (ownsTurn : Bool) : RunProgram PUnit := do
  match ordinal, ownsTurn with
  | some ordinal, true =>
    let world ← get
    match world.attemptOrder.releaseTurn ordinal with
    | .ok order => set { world with attemptOrder := order }
    | .error error => throw error
  | _, _ => return ()

end Klura
