import Klura.Contracts.Versions
import Klura.Library.Base64Url
import Klura.Library.OrderedMap
import Klura.Library.Replacement
import Klura.Library.SafeInteger
import Klura.Library.Utf8

/-! The catalog of the verified registry index, and its search page by page. -/

namespace Klura

namespace RegistryCatalog

open StrictJson

/-- The most bytes of a query. -/
def SEARCH_QUERY_BYTES_V1 : Nat := 512

/-- The most bytes of a cursor. -/
def SEARCH_CURSOR_BYTES_V1 : Nat := 1024

/-- The packages of a page that names no limit. -/
def SEARCH_PAGE_DEFAULT_V1 : Nat := 20

/-- The most packages of a page. -/
def SEARCH_PAGE_MAXIMUM_V1 : Nat := 50

/-- How a capability reaches its target. -/
inductive RegistryTransportV1 where
  | httpNode
  | httpBrowser
  | browserNavigation
  | browserPageScript
  deriving DecidableEq

/-- A capability of a package. -/
structure RegistryCapabilityV1 where
  description : Units
  runSupported : Bool
  transports : List RegistryTransportV1
  deriving DecidableEq

/-- A version of a package. -/
structure RegistryPackageVersionV1 where
  capabilities : OrderedMap Units RegistryCapabilityV1

/-- A package. -/
structure RegistryPackageV1 where
  packageId : Units
  displayName : Units
  description : Units
  domains : List Units
  tags : List Units
  stableVersion : Units
  versions : OrderedMap Units RegistryPackageVersionV1

/-- What a capability is listed as. -/
structure CatalogCapabilitySummaryV1 where
  capability : Units
  description : Units
  runSupported : Bool
  transports : List RegistryTransportV1
  deriving DecidableEq

/-- What a package is listed as. -/
structure CatalogPackageSummaryV1 where
  packageId : Units
  displayName : Units
  description : Units
  domains : List Units
  tags : List Units
  stableVersion : Units
  capabilities : List CatalogCapabilitySummaryV1
  deriving DecidableEq

/-- What a request fails with. -/
inductive RegistryCatalogErrorCode where
  | invalidOptions
  | registryUnavailable
  | registryInvalid
  | cursorInvalid
  | cursorStale
  deriving DecidableEq

/-- A failed request. -/
structure RegistryCatalogError where
  code : RegistryCatalogErrorCode
  message : Units
  deriving DecidableEq

/-- The message of a contract error, which begins with its field. -/
def errorText (error : PublicContractError) : Units := error.field ++ ascii ": " ++ error.message

/-- A check whose failure is a failed request. -/
def asCatalogError {α : Type} (code : RegistryCatalogErrorCode)
    (check : Except PublicContractError α) : Except RegistryCatalogError α :=
  check.mapError fun error => ⟨code, errorText error⟩

/-- The prefix of the ids of packages that no registry carries. -/
def LOCAL_PACKAGE_ID_PREFIX_V1 : Units := ascii "local-"

/-- A package id that a registry may carry. -/
def parseRegistryPackageId (value : JsValue) (field : Units) : Except PublicContractError Units :=
  do
    let packageId ← StrictJson.parsePackageId value field
    if LOCAL_PACKAGE_ID_PREFIX_V1.isPrefixOf packageId then
      .error {
        field
        message := ascii "must not start with \"local-\", which is reserved for locally " ++
          ascii "authored packages the registry never carries" }
    else .ok packageId

/-- A verified index: each package stands under its own id and has its stable version, and the ids
and the digest were checked. -/
structure VerifiedRegistryIndexV1 where
  packages : OrderedMap Units RegistryPackageV1
  sourceDigest : Units
  distinct : packages.keys.Nodup
  keyed : ∀ entry ∈ packages, entry.2.packageId = entry.1
  ids : ∀ entry ∈ packages, ∀ field, parseRegistryPackageId (.string entry.1) field = .ok entry.1
  stable : ∀ entry ∈ packages,
    (OrderedMap.get? entry.2.versions entry.2.stableVersion).isSome = true
  digest : ∀ field, StrictJson.parseSha256Digest (.string sourceDigest) field = .ok sourceDigest

/-- What refreshing the index fails with. -/
structure RegistryClientError where
  unavailable : Bool
  message : Units

/-- What the cached index is found to be. -/
inductive RegistryCacheStatusV1 where
  | missing
  | invalidSchema (message : Units)
  | invalidSignature (message : Units)
  | notYetValid (message : Units)
  | expired (message : Units)
  | ok (verified : VerifiedRegistryIndexV1)

/-- What the registry's client answers at the time of a request. -/
structure RegistryClientV1 where
  refresh : Except RegistryClientError VerifiedRegistryIndexV1
  inspectCache : RegistryCacheStatusV1

/-- A registry that answers with one index. -/
def RegistryClientV1.unchanged (verified : VerifiedRegistryIndexV1) : RegistryClientV1 :=
  ⟨.ok verified, .ok verified⟩

/-- The functions of the language that searching rests on. -/
structure TextWorld where
  /-- The normalization form NFKC of a text. -/
  normalizeNFKC : Units → Units
  /-- A text in lower case, by no particular language. -/
  toLocaleLowerCase : Units → Units

/-- A text as it is searched. -/
def normalizeSearchText (world : TextWorld) (value : Units) : Units :=
  world.toLocaleLowerCase (world.normalizeNFKC value)

/-- Whether a unit has the property White_Space. -/
def isWhiteSpace (unit : UInt16) : Bool :=
  let code := unit.toNat
  decide (9 ≤ code ∧ code ≤ 13) || code == 32 || code == 133 || code == 160 || code == 5760
    || decide (8192 ≤ code ∧ code ≤ 8202) || code == 8232 || code == 8233 || code == 8239
    || code == 8287 || code == 12288

/-- The words of a query, normalized, with one space between them. -/
def canonicalQuery (world : TextWorld) (value : Units) : Units :=
  [32].intercalate (((normalizeSearchText world value).splitOnP isWhiteSpace).filter (· ≠ []))

/-- The query of a search. -/
def parseSearchQuery (world : TextWorld) (value : Option JsValue) :
    Except RegistryCatalogError Units :=
  match value with
  | none => .ok []
  | some value =>
    asCatalogError .invalidOptions
      ((StrictJson.parseString value (ascii "search.query") SEARCH_QUERY_BYTES_V1).map
        (canonicalQuery world))

/-- The limit of a search. -/
def parseSearchLimit (value : Option JsValue) : Except RegistryCatalogError Nat :=
  match value with
  | none => .ok SEARCH_PAGE_DEFAULT_V1
  | some value =>
    asCatalogError .invalidOptions
      (StrictJson.parseInteger value (ascii "search.limit") 1 SEARCH_PAGE_MAXIMUM_V1)

/-- What a cursor says. -/
structure SearchCursorV1 where
  query : Units
  sourceDigest : Units
  lastPackageId : Units
  deriving DecidableEq

/-- The value that a cursor is written as. -/
def SearchCursorV1.value (cursor : SearchCursorV1) : JsValue :=
  .object [
    (ascii "schema_version", .number (.ofNat 1 one_small)),
    (ascii "operation", .string (ascii "search")),
    (ascii "query", .string cursor.query),
    (ascii "source_digest", .string cursor.sourceDigest),
    (ascii "last_package_id", .string cursor.lastPackageId)]

/-- The text of a cursor. -/
def encodeSearchCursor (cursor : SearchCursorV1) : Except PublicContractError Units :=
  (StrictJson.canonicalJson cursor.value).map fun text => encodeBase64Url (encodeUtf8 text)

/-- The keys of a cursor. -/
def CURSOR_KEYS : List Units :=
  [ascii "schema_version", ascii "operation", ascii "query", ascii "source_digest",
    ascii "last_package_id"]

/-- Whether a member is a text. -/
def isText (text : Units) : Option JsValue → Bool
  | some (.string value) => value = text
  | _ => false

/-- The value that the text of a cursor is written for. -/
def decodeSearchCursor (value : JsValue) (field : Units) : Except PublicContractError JsValue := do
  let encoded ← StrictJson.parseString value field SEARCH_CURSOR_BYTES_V1
  if encoded = [] ∨ !encoded.all isBase64UrlUnit ∨ encoded.length % 4 = 1 then
    StrictJson.fail field "must be unpadded base64url"
  else if encodeBase64Url (decodeBase64Url encoded) ≠ encoded then
    StrictJson.fail field "must be canonical base64url"
  else
    StrictJson.parseStrictJson field 4 (decodeUtf8 (decodeBase64Url encoded)) SEARCH_CURSOR_BYTES_V1

/-- What the members of a cursor say, if they are those of a query. -/
def readCursorFields (world : TextWorld) (cursor : Fields) (query : Units) :
    Except PublicContractError SearchCursorV1 := do
  let version ← StrictJson.parseInteger (StrictJson.memberOf cursor "schema_version")
    (ascii "search.cursor.schema_version") 1 1
  if version ≠ 1 then StrictJson.fail (ascii "search.cursor.schema_version") "must be 1"
  else if !isText (ascii "search") (StrictJson.member cursor (ascii "operation")) then
    StrictJson.fail (ascii "search.cursor.operation") "must be \"search\""
  else
    let given ← StrictJson.parseString (StrictJson.memberOf cursor "query")
      (ascii "search.cursor.query") SEARCH_QUERY_BYTES_V1
    let cursorQuery := canonicalQuery world given
    if given ≠ cursorQuery then
      StrictJson.fail (ascii "search.cursor.query") "must be the canonical query"
    else if cursorQuery ≠ query then
      StrictJson.fail (ascii "search.cursor.query") "does not bind this query"
    else
      let sourceDigest ← StrictJson.parseSha256Digest (StrictJson.memberOf cursor "source_digest")
        (ascii "search.cursor.source_digest")
      let lastPackageId ← parseRegistryPackageId (StrictJson.memberOf cursor "last_package_id")
        (ascii "search.cursor.last_package_id")
      .ok ⟨cursorQuery, sourceDigest, lastPackageId⟩

/-- What a text says as a cursor of a query. -/
def readSearchCursor (world : TextWorld) (value : JsValue) (query : Units) :
    Except PublicContractError SearchCursorV1 := do
  let parsed ← decodeSearchCursor value (ascii "search.cursor")
  let cursor ← StrictJson.parseExactRecord parsed (ascii "search.cursor") CURSOR_KEYS
  readCursorFields world cursor query

/-- The cursor of a search. -/
def parseSearchCursor (world : TextWorld) (value : Option JsValue) (query : Units) :
    Except RegistryCatalogError (Option SearchCursorV1) :=
  match value with
  | none => .ok none
  | some value => asCatalogError .cursorInvalid ((readSearchCursor world value query).map some)

/-- The texts of a package that are searched. -/
def searchFields (candidate : RegistryPackageV1) : List Units :=
  [candidate.packageId, candidate.displayName, candidate.description] ++ candidate.domains ++
    candidate.tags ++
      (((OrderedMap.get? candidate.versions candidate.stableVersion).map
        RegistryPackageVersionV1.capabilities).getD []).flatMap fun entry =>
          [entry.1, entry.2.description]

/-- Whether each word of a query is in a text of a package. -/
def matchesSearch (world : TextWorld) (candidate : RegistryPackageV1) (query : Units) : Bool :=
  let tokens := if query = [] then [] else query.splitOn 32
  let fields := (searchFields candidate).map (normalizeSearchText world)
  tokens.all fun token => fields.any fun field => includes field token

/-- How texts compare by their units. -/
def compareAscii (left right : Units) : Int :=
  if left = right then 0 else if left.map UInt16.toNat < right.map UInt16.toNat then -1 else 1

/-- What a package is listed as. -/
def projectPackageSummary (candidate : RegistryPackageV1) :
    Except RegistryCatalogError CatalogPackageSummaryV1 :=
  match OrderedMap.get? candidate.versions candidate.stableVersion with
  | none =>
    .error ⟨.registryInvalid,
      ascii "registry_catalog: stable version is absent from a verified package"⟩
  | some stable => .ok {
      packageId := candidate.packageId
      displayName := candidate.displayName
      description := candidate.description
      domains := candidate.domains
      tags := candidate.tags
      stableVersion := candidate.stableVersion
      capabilities :=
        (stable.capabilities.insertionSort fun left right => compareAscii left.1 right.1 ≤ 0).map
          fun entry => ⟨entry.1, entry.2.description, entry.2.runSupported, entry.2.transports⟩ }

/-- The position of the first package behind an id. -/
def firstIndexAfter (packages : List RegistryPackageV1) (lastPackageId : Units) : Nat :=
  packages.findIdx fun candidate => compareAscii candidate.packageId lastPackageId > 0

/-- The index of the first page. -/
def resolveFirstPageIndex (registry : RegistryClientV1) :
    Except RegistryCatalogError VerifiedRegistryIndexV1 :=
  match registry.refresh with
  | .ok verified => .ok verified
  | .error error =>
    match registry.inspectCache with
    | .ok verified => .ok verified
    | .invalidSchema message | .invalidSignature message | .notYetValid message =>
      .error ⟨.registryInvalid, message⟩
    | .expired message => .error ⟨.registryUnavailable, message⟩
    | .missing =>
      .error ⟨if error.unavailable then .registryUnavailable else .registryInvalid, error.message⟩

/-- The index of a later page. -/
def resolveCursorIndex (registry : RegistryClientV1) (sourceDigest : Units) :
    Except RegistryCatalogError VerifiedRegistryIndexV1 :=
  let stale : RegistryCatalogError :=
    ⟨.cursorStale, ascii "registry_catalog: the cursor index is no longer cached"⟩
  match registry.inspectCache with
  | .missing => .error stale
  | .invalidSchema message | .invalidSignature message | .notYetValid message =>
    .error ⟨.registryInvalid, message⟩
  | .expired message => .error ⟨.registryUnavailable, message⟩
  | .ok verified => if verified.sourceDigest ≠ sourceDigest then .error stale else .ok verified

/-- The input of a search. -/
structure SearchRegistryPackagesInputV1 where
  query : Option JsValue
  limit : Option JsValue
  cursor : Option JsValue

/-- A page of a search. -/
structure SearchRegistryPackagesResultV1 where
  indexDigest : Units
  query : Units
  items : List CatalogPackageSummaryV1
  nextCursor : Option Units

/-- The packages of an index that match a query, in the order of their ids. -/
def matchingPackages (world : TextWorld) (verified : VerifiedRegistryIndexV1) (query : Units) :
    List RegistryPackageV1 :=
  ((verified.packages.map Prod.snd).filter fun candidate =>
    matchesSearch world candidate query).insertionSort fun left right =>
      compareAscii left.packageId right.packageId ≤ 0

/-- The page of some packages that begins at a position. -/
def pageAt (verified : VerifiedRegistryIndexV1) (query : Units) (packages : List RegistryPackageV1)
    (firstIndex limit : Nat) : Except RegistryCatalogError SearchRegistryPackagesResultV1 := do
  let items ← ((packages.drop firstIndex).take limit).mapM projectPackageSummary
  let hasMore := firstIndex + items.length < packages.length
  let nextCursor ←
    match items.getLast? with
    | some last =>
      if hasMore then
        asCatalogError .registryInvalid
          ((encodeSearchCursor ⟨query, verified.sourceDigest, last.packageId⟩).map some)
      else .ok none
    | none => .ok none
  .ok ⟨verified.sourceDigest, query, items, nextCursor⟩

/-- A page of the packages that match a query. -/
def search (world : TextWorld) (registry : RegistryClientV1)
    (input : SearchRegistryPackagesInputV1) :
    Except RegistryCatalogError SearchRegistryPackagesResultV1 := do
  let query ← parseSearchQuery world input.query
  let limit ← parseSearchLimit input.limit
  let cursor ← parseSearchCursor world input.cursor query
  match cursor with
  | none =>
    let verified ← resolveFirstPageIndex registry
    pageAt verified query (matchingPackages world verified query) 0 limit
  | some cursor =>
    let verified ← resolveCursorIndex registry cursor.sourceDigest
    let packages := matchingPackages world verified query
    if !packages.any fun candidate => candidate.packageId = cursor.lastPackageId then
      .error ⟨.cursorInvalid,
        ascii "registry_catalog: the cursor sort key does not bind this result set"⟩
    else pageAt verified query packages (firstIndexAfter packages cursor.lastPackageId) limit

end RegistryCatalog

end Klura
