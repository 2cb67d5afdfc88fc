import Klura.Contracts.Common

/-! The declared ceilings of a run, and the journal budget a package must leave room for. -/

namespace Klura

/-- Bytes of the length prefix of one journal frame. -/
def JOURNAL_FRAME_HEADER_BYTES_V1 : Nat := 4

/-- Bytes of the digest that ends one journal frame. -/
def JOURNAL_FRAME_TRAILER_BYTES_V1 : Nat := 32

/-- Largest body an emergency frame may carry. -/
def JOURNAL_EMERGENCY_FRAME_BODY_BYTES_V1 : Nat := 65536

/-- Frames held back from ordinary work so a run can always terminalize. -/
def JOURNAL_EMERGENCY_FRAME_RESERVE_V1 : Nat := 5

/-- Bytes held back from ordinary work for those emergency frames. -/
def JOURNAL_EMERGENCY_BYTE_RESERVE_V1 : Nat :=
  JOURNAL_EMERGENCY_FRAME_RESERVE_V1 *
    (JOURNAL_FRAME_HEADER_BYTES_V1 + JOURNAL_EMERGENCY_FRAME_BODY_BYTES_V1 +
      JOURNAL_FRAME_TRAILER_BYTES_V1)

/-- The durable budgets of a run. -/
structure DurableRunBoundsV1 where
  maxFrontierBytes : Nat
  maxDataSpoolBytes : Nat
  maxJournalBytes : Nat
  maxJournalFrames : Nat
  maxReorderBufferBytes : Nat
  maxLocalStateBytes : Nat
  deriving DecidableEq

/-- The ceilings a collection declares for its runs. -/
structure ScrapeRunPolicyV1 where
  maxConcurrency : Nat
  perRequestTimeoutMs : Nat
  totalTimeoutMs : Nat
  maxRequests : Nat
  maxTasks : Nat
  maxPages : Nat
  maxItems : Nat
  maxEncodedItemBytes : Nat
  maxOutputBytes : Nat
  durable : DurableRunBoundsV1
  deriving DecidableEq

end Klura
