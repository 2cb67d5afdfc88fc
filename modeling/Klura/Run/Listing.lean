import Klura.Contracts.Sha256
import Klura.Run.Life

/-! A collection that lists numbered pages, as small as its contract allows it to be. -/

namespace Klura

/-- The identifier of the task that reads one page of the listing. -/
def listTaskId : StableContractIdV1 := ⟨"list", by decide⟩

/-- The identifier of the capability that sends the call for a page. -/
def readPageId : CapabilityIdV1 := ⟨"read_page", by decide⟩

/-- The identifier of the outcome that is a page. -/
def pageOutcomeId : StableContractIdV1 := ⟨"page", by decide⟩

/-- The identifier of the limit on the pages of one chain. -/
def pagesLimitId : StableContractIdV1 := ⟨"pages", by decide⟩

/-- The pointer that selects one member of an object. -/
def memberPointer (name : String) : JsonPointerV1 := fun value =>
  match value.member name with
  | some selected => .ok selected
  | none => .error "does not exist"

/-- A capability that makes one request for each call and may be sent again. -/
def readPage : PublicReadCapabilityV1 :=
  { maxTargetRequestsPerCall := 1, maxEncodedOutcomeBytes := 1000,
    strategyReplays := [.safeRead], inputSchema := fun _ _ => none }

/-- The task that reads a page and emits the items it lists. -/
def listTask (pagination : Option ScrapePaginationV1) (onFailure : OnFailureV1) :
    ScrapeTaskKindV1 :=
  { id := listTaskId, capability := readPageId, taskRole := .page
    pageOutcomeIds := [pageOutcomeId], terminalOutcomeIds := []
    emit := some { itemsPointer := memberPointer "items", cardinality := .array
                   projection := fun _ rawItem => .ok rawItem, limit := none }
    pagination, fanout := [], onFailure }

/-- The ceilings of a small run. -/
def listingPolicy : ScrapeRunPolicyV1 :=
  { maxConcurrency := 4, perRequestTimeoutMs := 1000, totalTimeoutMs := 60000, maxRequests := 8
    maxTasks := 8, maxPages := 8, maxItems := 8, maxEncodedItemBytes := 1024
    maxOutputBytes := 65536
    durable := { maxFrontierBytes := 65536, maxDataSpoolBytes := 65536, maxJournalBytes := 1048576
                 maxJournalFrames := 96, maxReorderBufferBytes := 1048576
                 maxLocalStateBytes := 65536 } }

/-- A run of a listing with one task kind. -/
def listing (policy : ScrapeRunPolicyV1) (task : ScrapeTaskKindV1) (output : RunOutputV1) :
    RunEnvironment :=
  { runId := ⟨1⟩, metaDigest := ⟨1⟩, args := .object [], capabilities := [(readPageId, readPage)]
    collection :=
      { taskKinds := [task], maxFanoutDepth := 0, itemSchema := fun _ _ => none
        itemIdentity := [fun item => .ok item], semanticStops := [], csvColumns := none }
    namedLimits := [(pagesLimitId, 8)], policy, output, sha256Digest }

/-- A listing of one page that stops its run when the page fails. -/
def onePageListing : RunEnvironment := listing listingPolicy (listTask none .stopRun) .inline

/-- The roots of a run that lists a number of pages. -/
def listRoots (count : Nat) : List PlannedScrapeRootV1 :=
  (List.range count).map fun ordinal =>
    { taskKindId := listTaskId, capability := readPageId
      input := .object [("cursor", natValue ordinal)], rootOrdinal := ordinal
      seedOrdinal := none }

/-- What the call for a page returns, with the cursor of the page after it. -/
def listedPage (items : List Nat) (next : Option Nat) : PublicCallResultV1 :=
  .outcome pageOutcomeId "success"
    (some (.object (("items", .array (items.map natValue)) ::
      (next.map fun cursor => ("next", natValue cursor)).toList))) 1

end Klura
