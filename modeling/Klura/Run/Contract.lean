import Klura.Contracts.ScrapePolicy
import Klura.Journal.Event

/-! What a run is executed against: the collection's tasks, the capabilities and the environment. -/

namespace Klura

/-- What a contract check reports: the field it checks and what is wrong with it. -/
structure ContractIssueV1 where
  field : String
  message : String
  deriving DecidableEq

/-- The error a contract issue is raised as. -/
def ContractIssueV1.raised (issue : ContractIssueV1) : RunError :=
  .publicContract issue.field issue.message

/-- A JSON pointer, as the value it selects or the reason it selects none. -/
abbrev JsonPointerV1 : Type := JsonValueV1 → Except String JsonValueV1

/-- Resolves a pointer, reporting a failure under the field it is read for. -/
def resolveJsonPointer (value : JsonValueV1) (pointer : JsonPointerV1) (field : String) :
    Except ContractIssueV1 JsonValueV1 :=
  (pointer value).mapError fun message => { field, message }

/-- A JSON schema, as the issue it finds with a value read under a field. -/
abbrev JsonSchemaV1 : Type := JsonValueV1 → String → Option ContractIssueV1

/-- Checks a value against a schema. -/
def validateJsonSchema (value : JsonValueV1) (schema : JsonSchemaV1) (field : String) :
    Except ContractIssueV1 Unit :=
  match schema value field with
  | none => .ok ()
  | some issue => .error issue

/-- Whether a strategy's reads may be sent again. -/
inductive StrategyReplayV1 where
  | safeRead
  | never
  deriving DecidableEq

/-- What the run needs to know of one capability. -/
structure PublicReadCapabilityV1 where
  maxTargetRequestsPerCall : Nat
  maxEncodedOutcomeBytes : Nat
  strategyReplays : List StrategyReplayV1
  inputSchema : JsonSchemaV1

/-- Whether a task reads a page of a collection or one item's detail. -/
inductive TaskRoleV1 where
  | page
  | detail
  deriving DecidableEq

/-- What a task's failure does to the rest of the run. -/
inductive OnFailureV1 where
  | stopRun
  | continueIndependent
  deriving DecidableEq

/-- Whether an emit pointer selects one item or an array of them. -/
inductive CardinalityV1 where
  | one
  | array
  deriving DecidableEq

/-- The scope an emit limit counts over. -/
inductive EmitScopeV1 where
  | run
  | taskChain
  deriving DecidableEq

/-- How a task turns its data into items. -/
structure ScrapeEmitV1 where
  itemsPointer : JsonPointerV1
  cardinality : CardinalityV1
  projection : JsonValueV1 → JsonValueV1 → Except ContractIssueV1 JsonValueV1
  limit : Option (EmitScopeV1 × StableContractIdV1)

/-- Where the next page's input comes from. -/
inductive ScrapePaginationKindV1 where
  | cursor (valuePointer : JsonPointerV1) (bindInput : StableContractIdV1)
  | counter (bindInput : StableContractIdV1) (step : Nat)
  | observedLink (valuePointer : JsonPointerV1) (bindInput : StableContractIdV1)
      (validateStartUrl : Option (JsonValueV1 → Except ContractIssueV1 JsonValueV1))

/-- What a page's predicates may look at. -/
structure PageContextV1 where
  taskData : Option JsonValueV1
  outcomeId : StableContractIdV1
  outcomeClass : String

/-- How a page task continues and when it is exhausted. -/
structure ScrapePaginationV1 where
  kind : ScrapePaginationKindV1
  continueWhen : PageContextV1 → Except ContractIssueV1 Bool
  exhaustedWhen : PageContextV1 → Except ContractIssueV1 Bool
  maxPagesPerChain : StableContractIdV1

/-- One declared edge from an emitted item to a child task. -/
structure ScrapeFanoutV1 where
  id : StableContractIdV1
  childTaskKind : StableContractIdV1
  condition : Option (JsonValueV1 → JsonValueV1 → Except ContractIssueV1 Bool)
  input : JsonValueV1 → Except ContractIssueV1 JsonValueV1

/-- One task kind of a collection. -/
structure ScrapeTaskKindV1 where
  id : StableContractIdV1
  capability : CapabilityIdV1
  taskRole : TaskRoleV1
  pageOutcomeIds : List StableContractIdV1
  terminalOutcomeIds : List StableContractIdV1
  emit : Option ScrapeEmitV1
  pagination : Option ScrapePaginationV1
  fanout : List ScrapeFanoutV1
  onFailure : OnFailureV1

/-- The direction a semantic stop expects its items in. -/
inductive SemanticOrderV1 where
  | ascending
  | descending
  deriving DecidableEq

/-- A cutoff that ends a run when its items leave the asked-for range. -/
structure SemanticStopV1 where
  id : StableContractIdV1
  boundArgument : JsonValueV1 → Except ContractIssueV1 (Option Int)
  itemValuePointer : JsonPointerV1
  comparator : JsonValueV1 → Except ContractIssueV1 Int
  order : SemanticOrderV1
  inclusive : Bool

/-- One column of a CSV output. -/
structure CsvColumnV1 where
  name : String
  pointer : JsonPointerV1

/-- The parts of a collection contract that a run executes. -/
structure CollectionRunContractV1 where
  taskKinds : List ScrapeTaskKindV1
  maxFanoutDepth : Nat
  itemSchema : JsonSchemaV1
  itemIdentity : List JsonPointerV1
  semanticStops : List SemanticStopV1
  csvColumns : Option (List CsvColumnV1)

/-- The output declaration recorded with a run. -/
inductive RunOutputV1 where
  | inline
  | file (requestedPath : String) (format : RunOutputFormatV1)
  deriving DecidableEq

/-- Everything about one run that stays fixed from its start to its terminal result. -/
structure RunEnvironment where
  runId : RunIdV1
  metaDigest : Sha256DigestV1
  args : JsonValueV1
  capabilities : List (CapabilityIdV1 × PublicReadCapabilityV1)
  collection : CollectionRunContractV1
  namedLimits : List (StableContractIdV1 × Nat)
  policy : ScrapeRunPolicyV1
  output : RunOutputV1
  sha256Digest : Bytes → Sha256DigestV1

/-- The task kind of an identifier, of which a parsed collection declares at most one. -/
def RunEnvironment.taskKind (env : RunEnvironment) (id : StableContractIdV1) :
    Option ScrapeTaskKindV1 :=
  env.collection.taskKinds.find? fun task => task.id = id

/-- The capability of an identifier. -/
def RunEnvironment.capability (env : RunEnvironment) (id : CapabilityIdV1) :
    Option PublicReadCapabilityV1 :=
  env.capabilities.lookup id

/-- The resolved value of a named limit. -/
def RunEnvironment.namedLimit (env : RunEnvironment) (id : StableContractIdV1) : Option Nat :=
  env.namedLimits.lookup id

/-- The key that says which part of the collection graph a node stands for. -/
inductive LogicalKeyV1 where
  | root (rootOrdinal : Nat) (seedOrdinal : Option Nat)
  | fanout (parentNodeId : RunNodeIdV1) (edgeId : StableContractIdV1)
      (parentItemDigest : Sha256DigestV1)
  deriving DecidableEq

/-- A logical key as JSON. -/
def LogicalKeyV1.value : LogicalKeyV1 → JsonValueV1
  | .root rootOrdinal seedOrdinal =>
    .object [("kind", textValue "root"), ("root_ordinal", natValue rootOrdinal),
      ("seed_ordinal", nullable seedOrdinal natValue)]
  | .fanout parentNodeId edgeId parentItemDigest =>
    .object [("kind", textValue "fanout"), ("parent_node_id", nodeIdValue parentNodeId),
      ("edge_id", idValue edgeId), ("parent_item_digest", digestValue parentItemDigest)]

/-- One node of a run's graph, with the progress its chain of pages has made. -/
structure ScrapeNodeV1 where
  nodeId : RunNodeIdV1
  logicalKey : LogicalKeyV1
  taskKindId : StableContractIdV1
  capability : CapabilityIdV1
  input : JsonValueV1
  rootOrdinal : Nat
  seedOrdinal : Option Nat
  depth : Nat
  outputOrdinal : Nat
  seenInputDigests : List Sha256DigestV1
  pagesStartedInChain : Nat

/-- The digest of a value's canonical text. -/
def RunEnvironment.digestOf (env : RunEnvironment) (value : JsonValueV1) : Sha256DigestV1 :=
  env.sha256Digest (canonicalJson value)

/-- The leading half of a digest, which is what a node identifier keeps of it. -/
def Sha256DigestV1.leading (digest : Sha256DigestV1) : BitVec 128 :=
  digest.bits.extractLsb' 128 128

/-- The identifier of the node a logical key names within a run. -/
def createRunNodeId (env : RunEnvironment) (logicalKey : LogicalKeyV1) : RunNodeIdV1 :=
  ⟨(env.sha256Digest (utf8 "klura-node-v1\x00" ++ env.runId.text ++ utf8 "\x00" ++
    canonicalJson logicalKey.value)).leading⟩

/-- A node that has not started any page. -/
def createScrapeNode (env : RunEnvironment) (logicalKey : LogicalKeyV1) (outputOrdinal : Nat)
    (taskKindId : StableContractIdV1) (capability : CapabilityIdV1) (input : JsonValueV1)
    (rootOrdinal : Nat) (seedOrdinal : Option Nat) (depth : Nat) : ScrapeNodeV1 :=
  { nodeId := createRunNodeId env logicalKey, logicalKey, taskKindId, capability, input,
    rootOrdinal, seedOrdinal, depth, outputOrdinal,
    seenInputDigests := [env.digestOf input], pagesStartedInChain := 0 }

/-- A node as the JSON its durable state is written as. -/
def scrapeNodeValue (node : ScrapeNodeV1) : JsonValueV1 :=
  .object [("node_id", nodeIdValue node.nodeId), ("logical_key", node.logicalKey.value),
    ("task_kind_id", idValue node.taskKindId), ("capability", idValue node.capability),
    ("input", node.input), ("root_ordinal", natValue node.rootOrdinal),
    ("seed_ordinal", nullable node.seedOrdinal natValue), ("depth", natValue node.depth),
    ("output_ordinal", natValue node.outputOrdinal),
    ("seen_input_digests", .array (node.seenInputDigests.map digestValue)),
    ("pages_started_in_chain", natValue node.pagesStartedInChain)]

/-- The bytes a node takes in the frontier. -/
def encodedNodeBytes (node : ScrapeNodeV1) : Nat :=
  canonicalBytes (scrapeNodeValue node)

end Klura
