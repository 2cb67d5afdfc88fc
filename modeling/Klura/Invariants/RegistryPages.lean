import Klura.Invariants.MetadataReaders
import Klura.Registry.Catalog

/-! Searching the registry page by page, and which cursors the search takes back. -/

namespace Klura

namespace RegistryCatalog

open StrictJson

/-- The text of a cursor. -/
def cursorText (cursor : SearchCursorV1) : Units :=
  encodeBase64Url (encodeUtf8 (syntaxOf cursor.value).text)

/-- The entries that a cursor is written as. -/
def cursorEntries (cursor : SearchCursorV1) : List (Units × JsValue) :=
  [(ascii "schema_version", .number (.ofNat 1 one_small)),
    (ascii "operation", .string (ascii "search")),
    (ascii "query", .string cursor.query),
    (ascii "source_digest", .string cursor.sourceDigest),
    (ascii "last_package_id", .string cursor.lastPackageId)]

theorem cursorEntries_distinct (cursor : SearchCursorV1) :
    ((cursorEntries cursor).map Prod.fst).Nodup := by
  have keys : (cursorEntries cursor).map Prod.fst = CURSOR_KEYS := rfl
  rw [keys]
  decide

theorem cursor_isJson (cursor : SearchCursorV1) : cursor.value.IsJson := by
  refine (JsValue.isJson_object _).mpr ⟨cursorEntries_distinct cursor, ?_⟩
  simp [JsValue.IsJson, Double.ofNat]

theorem cursor_depth (cursor : SearchCursorV1) : cursor.value.depth ≤ 1 := by
  refine (JsValue.depth_object _ _).mpr ?_
  simp [JsValue.depth]

theorem encodeSearchCursor_eq (cursor : SearchCursorV1) :
    encodeSearchCursor cursor = .ok (cursorText cursor) := by
  have shallow : cursor.value.depth ≤ 100 := Nat.le_trans (cursor_depth cursor) (by omega)
  rw [encodeSearchCursor, StrictJson.canonicalJson_eq (cursor_isJson cursor) shallow]
  rfl

variable {cursor : SearchCursorV1}

theorem cursor_bytes (hex : isHexOf 64 cursor.sourceDigest = true) :
    StrictJson.canonicalBytes cursor.value = 152 + utf8Length (StrictJson.stringText cursor.query) +
      utf8Length (StrictJson.stringText cursor.lastPackageId) := by
  have one : StrictJson.canonicalBytes (.number (.ofNat 1 one_small)) = 1 := by decide +kernel
  have search : StrictJson.canonicalBytes (.string (ascii "search")) = 8 := by decide +kernel
  have digest := RunFiles.canonicalBytes_digest hex
  have first : utf8Length (StrictJson.stringText (ascii "schema_version")) = 16 := by decide +kernel
  have second : utf8Length (StrictJson.stringText (ascii "operation")) = 11 := by decide +kernel
  have third : utf8Length (StrictJson.stringText (ascii "query")) = 7 := by decide +kernel
  have fourth : utf8Length (StrictJson.stringText (ascii "source_digest")) = 15 := by decide +kernel
  have fifth : utf8Length (StrictJson.stringText (ascii "last_package_id")) = 17 := by decide +kernel
  have text : ∀ value : Units,
      StrictJson.canonicalBytes (.string value) = utf8Length (StrictJson.stringText value) :=
    fun _ => rfl
  rw [SearchCursorV1.value, StrictJson.canonicalBytes_object]
  simp only [List.map_cons, List.map_nil, List.sum_cons, List.sum_nil, List.length_cons,
    List.length_nil, StrictJson.entryBytes, one, search, digest, first, second, third, fourth, fifth]
  rw [text, text]
  omega

theorem cursorText_length (cursor : SearchCursorV1) :
    utf8Length (cursorText cursor) = (cursorText cursor).length ∧
      ((cursorText cursor).length ≤ SEARCH_CURSOR_BYTES_V1 ↔
        StrictJson.canonicalBytes cursor.value ≤ 768) ∧
      (cursorText cursor).length % 4 ≠ 1 ∧
      (StrictJson.canonicalBytes cursor.value ≠ 0 → cursorText cursor ≠ []) := by
  have symbols := encodeBase64Url_units (encodeUtf8 (syntaxOf cursor.value).text)
  have length := encodeBase64Url_length (encodeUtf8 (syntaxOf cursor.value).text)
  rw [encodeUtf8_length] at length
  have same : (cursorText cursor).length = StrictJson.canonicalBytes cursor.value / 3 * 4 +
      if StrictJson.canonicalBytes cursor.value % 3 = 0 then 0 else StrictJson.canonicalBytes cursor.value % 3 + 1 :=
    length
  refine ⟨utf8Length_ascii fun unit member => isBase64UrlUnit_small (symbols unit member), ?_, ?_, ?_⟩
  · rw [same, SEARCH_CURSOR_BYTES_V1]
    split <;> omega
  · rw [same]
    split <;> omega
  · intro positive empty
    rw [empty, List.length_nil] at same
    split at same <;> omega

/-- Whether a search takes a cursor back: its query is one that stays as it is when it is
normalized again, short enough for a query, and short enough together with the id for a cursor. -/
structure Fits (world : TextWorld) (query lastPackageId : Units) : Prop where
  canonical : canonicalQuery world query = query
  short : utf8Length query ≤ SEARCH_QUERY_BYTES_V1
  room : utf8Length (StrictJson.stringText query) +
    utf8Length (StrictJson.stringText lastPackageId) ≤ 616

theorem parseInteger_one (field : Units) {maximum : Nat} (inside : 1 ≤ maximum) :
    StrictJson.parseInteger (.number (.ofNat 1 one_small)) field 1 maximum = .ok 1 := by
  simp [StrictJson.parseInteger, Double.ofNat, Magnitude.ofNat, Nat.div_self unitsPerOne_pos,
    inside]

theorem cursor_members {value : JsValue} (same : value.Same cursor.value) :
    ∃ fields, value = .object fields ∧
      (∀ field, StrictJson.parseExactRecord value field CURSOR_KEYS = .ok fields) ∧
      (∀ field, StrictJson.parseInteger (StrictJson.memberOf fields "schema_version") field 1 1 =
        .ok 1) ∧
      StrictJson.member fields (ascii "operation") = some (.string (ascii "search")) ∧
      StrictJson.member fields (ascii "query") = some (.string cursor.query) ∧
      StrictJson.member fields (ascii "source_digest") = some (.string cursor.sourceDigest) ∧
      StrictJson.member fields (ascii "last_package_id") = some (.string cursor.lastPackageId) := by
  obtain ⟨fields, rfl, keys, members⟩ := same.object (cursorEntries_distinct cursor)
  have text : ∀ key value, OrderedMap.get? (cursorEntries cursor) key = some (.string value) →
      StrictJson.member fields key = some (.string value) := by
    intro key value found
    obtain ⟨other, there, alike⟩ := members key _ found
    rw [StrictJson.member, there, alike.string]
  obtain ⟨version, there, alike⟩ := members (ascii "schema_version")
    (.number (.ofNat 1 one_small)) rfl
  refine ⟨fields, rfl, fun field => ?_, fun field => ?_, text _ _ rfl, text _ _ rfl, text _ _ rfl,
    text _ _ rfl⟩
  · refine StrictJson.parseExactRecord_ok.mpr ⟨fun entry member => ?_, fun key allowed => ?_⟩
    · exact keys.mem_iff.mp (List.mem_map_of_mem member)
    · have own : key ∈ OrderedMap.keys fields := keys.mem_iff.mpr allowed
      exact OrderedMap.get?_isSome_iff.mpr own
  · have found : StrictJson.memberOf fields "schema_version" = version := by
      rw [StrictJson.memberOf, StrictJson.member, there, Option.getD_some]
    rw [found]
    exact parseInteger_again (parseInteger_one field (Nat.le_refl 1)) alike field

/-- The text of a cursor is decoded just when it is within its bound. -/
theorem decodeSearchCursor_text {cursor : SearchCursorV1} (field : Units)
    (some : StrictJson.canonicalBytes cursor.value ≠ 0) :
    (StrictJson.canonicalBytes cursor.value ≤ 768 →
      decodeSearchCursor (.string (cursorText cursor)) field =
        .ok (StrictJson.syntaxOf cursor.value).value) ∧
    (∀ value, decodeSearchCursor (.string (cursorText cursor)) field = .ok value →
      StrictJson.canonicalBytes cursor.value ≤ 768) := by
  obtain ⟨oneByte, bound, quarters, inhabited⟩ := cursorText_length cursor
  have symbols : (cursorText cursor).all isBase64UrlUnit = true :=
    List.all_eq_true.mpr (encodeBase64Url_units _)
  have decoded : decodeBase64Url (cursorText cursor) =
      encodeUtf8 (StrictJson.syntaxOf cursor.value).text := decodeBase64Url_encode _
  have again : encodeBase64Url (decodeBase64Url (cursorText cursor)) = cursorText cursor := by
    rw [decoded]
    rfl
  have shape : ¬ (cursorText cursor = [] ∨ (!(cursorText cursor).all isBase64UrlUnit) = true ∨
      (cursorText cursor).length % 4 = 1) := by
    simp [inhabited some, symbols, quarters]
  constructor
  · intro small
    have short : ¬ SEARCH_CURSOR_BYTES_V1 < utf8Length (cursorText cursor) := by
      rw [oneByte]
      exact Nat.not_lt.mpr (bound.mpr small)
    have whole : StrictJson.parseString (.string (cursorText cursor)) field
        SEARCH_CURSOR_BYTES_V1 = .ok (cursorText cursor) := by
      simp only [StrictJson.parseString, if_neg short]
    refine Klura.bind_ok.mpr ⟨_, whole, ?_⟩
    rw [if_neg shape, if_neg (not_not_intro again), decoded, StrictJson.decodeUtf8_canonical]
    exact StrictJson.parseStrictJson_canonical (cursor_isJson cursor)
      (Nat.le_trans (cursor_depth cursor) (by omega)) field (Nat.le_trans small (by decide))
  · intro value read
    obtain ⟨encoded, whole, -⟩ := Klura.bind_ok.mp read
    -- The check of the length is the first one.
    simp only [StrictJson.parseString] at whole
    split at whole
    · exact absurd whole (by simp)
    · rename_i short
      rw [oneByte] at short
      exact bound.mp (Nat.le_of_not_lt short)

/-- The members of a cursor are read just when its query is short and stays as it is. -/
theorem readCursorFields_iff (world : TextWorld) {fields : Fields}
    (version : ∀ field, StrictJson.parseInteger (StrictJson.memberOf fields "schema_version") field 1 1 = .ok 1)
    (operation : StrictJson.member fields (ascii "operation") = some (.string (ascii "search")))
    (query : StrictJson.member fields (ascii "query") = some (.string cursor.query))
    (source : StrictJson.member fields (ascii "source_digest") = some (.string cursor.sourceDigest))
    (last : StrictJson.member fields (ascii "last_package_id") = some (.string cursor.lastPackageId))
    (id : ∀ field, parseRegistryPackageId (.string cursor.lastPackageId) field = .ok cursor.lastPackageId)
    (digest : ∀ field, StrictJson.parseSha256Digest (.string cursor.sourceDigest) field = .ok cursor.sourceDigest) :
    (utf8Length cursor.query ≤ SEARCH_QUERY_BYTES_V1 →
      canonicalQuery world cursor.query = cursor.query →
        readCursorFields world fields cursor.query = .ok cursor) ∧
    (∀ read, readCursorFields world fields cursor.query = .ok read →
      utf8Length cursor.query ≤ SEARCH_QUERY_BYTES_V1 ∧
        canonicalQuery world cursor.query = cursor.query) := by
  have search : isText (ascii "search") (some (.string (ascii "search"))) = true := by decide
  have queryGiven : StrictJson.memberOf fields "query" = .string cursor.query := by
    rw [StrictJson.memberOf, query, Option.getD_some]
  have sourceGiven : StrictJson.memberOf fields "source_digest" = .string cursor.sourceDigest := by
    rw [StrictJson.memberOf, source, Option.getD_some]
  have lastGiven : StrictJson.memberOf fields "last_package_id" = .string cursor.lastPackageId := by
    rw [StrictJson.memberOf, last, Option.getD_some]
  constructor
  · intro short canonical
    have given : StrictJson.parseString (.string cursor.query) (ascii "search.cursor.query")
        SEARCH_QUERY_BYTES_V1 = .ok cursor.query := by
      simp only [StrictJson.parseString, if_neg (Nat.not_lt.mpr short)]
    refine Klura.bind_ok.mpr ⟨1, version _, ?_⟩
    rw [if_neg (by simp), operation, search, if_neg (by simp), queryGiven]
    refine Klura.bind_ok.mpr ⟨_, given, ?_⟩
    dsimp only
    rw [canonical, if_neg (by simp), if_neg (by simp), sourceGiven, lastGiven]
    exact Klura.bind_ok.mpr ⟨_, digest _, Klura.bind_ok.mpr ⟨_, id _, rfl⟩⟩
  · intro read accepted
    obtain ⟨one, -, after⟩ := Klura.bind_ok.mp accepted
    split at after
    · exact absurd after (by simp [StrictJson.fail])
    split at after
    · exact absurd after (by simp [StrictJson.fail])
    obtain ⟨given, parsed, after⟩ := Klura.bind_ok.mp after
    rw [queryGiven] at parsed
    simp only [StrictJson.parseString] at parsed
    split at parsed
    · exact absurd parsed (by simp)
    rename_i short
    obtain rfl : cursor.query = given := Except.ok.inj parsed
    dsimp only at after
    split at after
    · exact absurd after (by simp [StrictJson.fail])
    rename_i canonical
    exact ⟨Nat.le_of_not_lt short, (not_not.mp canonical).symm⟩

theorem readSearchCursor_iff (world : TextWorld) {cursor : SearchCursorV1}
    (id : ∀ field, parseRegistryPackageId (.string cursor.lastPackageId) field =
      .ok cursor.lastPackageId)
    (digest : ∀ field, StrictJson.parseSha256Digest (.string cursor.sourceDigest) field =
      .ok cursor.sourceDigest) :
    (Fits world cursor.query cursor.lastPackageId →
      readSearchCursor world (.string (cursorText cursor)) cursor.query = .ok cursor) ∧
    (∀ read, readSearchCursor world (.string (cursorText cursor)) cursor.query = .ok read →
      Fits world cursor.query cursor.lastPackageId) := by
  have bytes := cursor_bytes (StrictJson.parseForm_ok (digest [])).2.1
  obtain ⟨decodes, decoded⟩ := @decodeSearchCursor_text cursor
    (ascii "search.cursor") (by omega)
  obtain ⟨fields, value, record, version, operation, query, source, last⟩ :=
    cursor_members (StrictJson.syntaxOf_value (cursor_isJson cursor))
  obtain ⟨reads, read⟩ := readCursorFields_iff world version operation query source last id digest
  constructor
  · rintro ⟨canonical, short, room⟩
    exact Klura.bind_ok.mpr ⟨_, decodes (by omega),
      Klura.bind_ok.mpr ⟨_, record _, reads short canonical⟩⟩
  · intro result accepted
    obtain ⟨parsed, decoding, after⟩ := Klura.bind_ok.mp accepted
    obtain ⟨own, recorded, after⟩ := Klura.bind_ok.mp after
    have small := decoded _ decoding
    rw [decodes small] at decoding
    obtain rfl := Except.ok.inj decoding
    rw [record] at recorded
    obtain rfl := Except.ok.inj recorded
    obtain ⟨short, canonical⟩ := read _ after
    exact ⟨canonical, short, by omega⟩

variable {left right : Units}

theorem units_inj (same : left.map UInt16.toNat = right.map UInt16.toNat) :
    left = right :=
  (List.map_injective_iff.mpr fun _ _ => UInt16.toNat_inj.mp) same

theorem compareAscii_le :
    compareAscii left right ≤ 0 ↔ left.map UInt16.toNat ≤ right.map UInt16.toNat := by
  unfold compareAscii
  by_cases same : left = right
  · simp [same]
  · by_cases before : left.map UInt16.toNat < right.map UInt16.toNat
    · simp [same, before, before.le]
    · have after : ¬ left.map UInt16.toNat ≤ right.map UInt16.toNat := by
        intro least
        rcases least.lt_or_eq with less | equal
        · exact before less
        · exact same (units_inj equal)
      simp [same, before, after]

theorem compareAscii_lt :
    compareAscii left right < 0 ↔ left.map UInt16.toNat < right.map UInt16.toNat := by
  unfold compareAscii
  by_cases same : left = right
  · simp [same]
  · by_cases before : left.map UInt16.toNat < right.map UInt16.toNat
    · simp [same, before]
    · simp [same, before]

theorem compareAscii_gt :
    compareAscii left right > 0 ↔ right.map UInt16.toNat < left.map UInt16.toNat := by
  rw [← not_le, ← compareAscii_le.not, gt_iff_lt, not_le]

/-- The ids of matching packages are strictly ascending. -/
theorem matchingPackages_ascending (world : TextWorld) (verified : VerifiedRegistryIndexV1)
    (query : Units) : (matchingPackages world verified query).Pairwise fun left right =>
      compareAscii left.packageId right.packageId < 0 := by
  set order : RegistryPackageV1 → RegistryPackageV1 → Prop := fun left right =>
    compareAscii left.packageId right.packageId ≤ 0 with defined
  have total : Std.Total order := ⟨fun left right => by
    simp only [defined, compareAscii_le]
    exact le_total _ _⟩
  have trans : IsTrans RegistryPackageV1 order := ⟨fun first second third => by
    simp only [defined, compareAscii_le]
    exact le_trans⟩
  have sorted : (matchingPackages world verified query).Pairwise order :=
    List.pairwise_insertionSort order _
  -- Each package stands under its own id, and the ids differ.
  have ids : (matchingPackages world verified query).Pairwise fun left right =>
      left.packageId ≠ right.packageId := by
    have keys : (verified.packages.map fun entry => entry.2.packageId).Nodup := by
      have same : (verified.packages.map fun entry => entry.2.packageId) =
          OrderedMap.keys verified.packages :=
        List.map_congr_left fun entry member => verified.keyed entry member
      rw [same]
      exact verified.distinct
    have all : (verified.packages.map Prod.snd).Pairwise fun left right =>
        left.packageId ≠ right.packageId := by
      rw [List.pairwise_map]
      exact List.pairwise_map.mp keys
    have kept := all.filter fun candidate => matchesSearch world candidate query
    exact (List.perm_insertionSort order _).symm.pairwise kept fun differ => differ.symm
  refine (sorted.and ids).imp fun both => ?_
  have least := compareAscii_le.mp both.1
  rw [compareAscii_lt]
  exact lt_of_le_of_ne least fun same => both.2 (units_inj same)

/-- Where a predicate fails in the front of a list and not right behind it, the front is what is
before its first member with it. -/
theorem findIdx_append_front {α : Type} {holds : α → Bool} {front back : List α}
    (fails : ∀ member ∈ front, holds member = false)
    (next : ∀ first, back.head? = some first → holds first = true) :
    (front ++ back).findIdx holds = front.length := by
  induction front with
  | nil =>
    cases back with
    | nil => rfl
    | cons first rest => simp [List.findIdx_cons, next first rfl]
  | cons member rest ih =>
    have later := ih fun other inside => fails other (List.mem_cons_of_mem _ inside)
    simp [List.findIdx_cons, fails member List.mem_cons_self, later]

variable {packages : List RegistryPackageV1}

theorem firstIndexAfter_getElem
    (ascending : packages.Pairwise fun left right => compareAscii left.packageId right.packageId < 0)
    {index : Nat} (inside : index < packages.length) :
    firstIndexAfter packages packages[index].packageId = index + 1 := by
  have order := List.pairwise_iff_getElem.mp ascending
  have split := List.take_append_drop (index + 1) packages
  have size : (packages.take (index + 1)).length = index + 1 := by
    rw [List.length_take]
    omega
  generalize named : packages[index].packageId = last
  have whole : firstIndexAfter packages last =
      firstIndexAfter (packages.take (index + 1) ++ packages.drop (index + 1)) last := by rw [split]
  rw [whole, firstIndexAfter, findIdx_append_front, size]
  · -- None of the packages up to the position comes behind its package.
    intro member taken
    obtain ⟨earlier, bound, rfl⟩ := List.mem_iff_getElem.mp taken
    rw [List.length_take] at bound
    rw [List.getElem_take, decide_eq_false_iff_not, compareAscii_gt, ← named]
    rcases Nat.lt_or_ge earlier index with before | same
    · have less := compareAscii_lt.mp (order earlier index (by omega) inside before)
      exact less.le.not_gt
    · obtain rfl : earlier = index := by omega
      exact lt_irrefl _
  · intro first head
    rw [List.head?_drop] at head
    obtain ⟨bound, rfl⟩ := List.getElem?_eq_some_iff.mp head
    rw [decide_eq_true_eq, compareAscii_gt, ← named]
    exact compareAscii_lt.mp (order index (index + 1) inside bound (by omega))

/-- What a package with its stable version is listed as. -/
def listed (candidate : RegistryPackageV1) : CatalogPackageSummaryV1 :=
  match projectPackageSummary candidate with
  | .ok summary => summary
  | .error _ => ⟨[], [], [], [], [], [], []⟩

variable {candidate : RegistryPackageV1}

theorem projectPackageSummary_listed
    (stable : (OrderedMap.get? candidate.versions candidate.stableVersion).isSome = true) :
    projectPackageSummary candidate = .ok (listed candidate) ∧
      (listed candidate).packageId = candidate.packageId := by
  obtain ⟨version, found⟩ := Option.isSome_iff_exists.mp stable
  simp [listed, projectPackageSummary, found]

theorem matchingPackages_stable {world : TextWorld} {verified : VerifiedRegistryIndexV1}
    {query : Units} (among : candidate ∈ matchingPackages world verified query) :
    (OrderedMap.get? candidate.versions candidate.stableVersion).isSome = true ∧
      ∀ field, parseRegistryPackageId (.string candidate.packageId) field =
        .ok candidate.packageId := by
  have kept := (List.perm_insertionSort _ _).mem_iff.mp among
  obtain ⟨entry, member, rfl⟩ := List.mem_map.mp (List.mem_filter.mp kept).1
  rw [verified.keyed entry member]
  exact ⟨verified.stable entry member, verified.ids entry member⟩

theorem mapM_listed
    (stable : ∀ candidate ∈ packages, (OrderedMap.get? candidate.versions candidate.stableVersion).isSome = true) :
    packages.mapM projectPackageSummary = .ok (packages.map listed) := by
  induction packages with
  | nil => rfl
  | cons first rest ih =>
    rw [List.mapM_cons, (projectPackageSummary_listed (stable first List.mem_cons_self)).1,
      ih fun candidate member => stable candidate (List.mem_cons_of_mem _ member)]
    rfl

section Pages

variable {world : TextWorld} {verified : VerifiedRegistryIndexV1} {query : Units}

/-- A page lists the packages from its position on, and has a cursor when it leaves some. -/
theorem pageAt_eq {firstIndex limit : Nat} (some : 1 ≤ limit) :
    pageAt verified query (matchingPackages world verified query) firstIndex limit =
      .ok ⟨verified.sourceDigest, query,
        (((matchingPackages world verified query).drop firstIndex).take limit).map listed,
        if firstIndex + limit < (matchingPackages world verified query).length then
          (((matchingPackages world verified query).drop firstIndex).take limit).getLast?.map
            fun last => cursorText ⟨query, verified.sourceDigest, last.packageId⟩
        else none⟩ := by
  set page := ((matchingPackages world verified query).drop firstIndex).take limit with defined
  have stable : ∀ candidate ∈ page,
      (OrderedMap.get? candidate.versions candidate.stableVersion).isSome = true :=
    fun candidate member => (matchingPackages_stable (List.mem_of_mem_drop
      (List.mem_of_mem_take member))).1
  have size : page.length = min limit ((matchingPackages world verified query).length - firstIndex) := by
    rw [defined, List.length_take, List.length_drop]
  unfold pageAt
  rw [← defined, mapM_listed stable]
  refine Klura.bind_ok.mpr ⟨_, rfl, ?_⟩
  dsimp only
  rw [List.getLast?_map, List.length_map]
  cases last : page.getLast? with
  | none =>
    -- A page without packages is behind the last one.
    have empty : page.length = 0 := by rw [List.getLast?_eq_none_iff.mp last]; rfl
    have nothing : ¬ firstIndex + limit < (matchingPackages world verified query).length := by omega
    simp [nothing, Klura.bind_ok]
  | some candidate =>
    have member := List.mem_of_getLast? last
    have positive := List.length_pos_of_mem member
    have same := (projectPackageSummary_listed (stable candidate member)).2
    by_cases more : firstIndex + limit < (matchingPackages world verified query).length
    · have hasMore : firstIndex + page.length < (matchingPackages world verified query).length := by
        omega
      simp only [Option.map_some, hasMore, if_true, more, same, encodeSearchCursor_eq]
      rfl
    · have none : ¬ firstIndex + page.length < (matchingPackages world verified query).length := by
        omega
      simp only [Option.map_some, none, if_false, more]
      rfl

end Pages

/-- A search that is followed page by page: an index, a query that the search accepts, and a limit
that it accepts for each page. -/
structure SearchPass where
  world : TextWorld
  verified : VerifiedRegistryIndexV1
  query : Option JsValue
  canonical : Units
  accepted : parseSearchQuery world query = .ok canonical
  limits : Nat → Option JsValue
  counts : Nat → Nat
  limited : ∀ page, parseSearchLimit (limits page) = .ok (counts page)

namespace SearchPass

variable (pass : SearchPass)

/-- The packages that match. -/
def matching : List RegistryPackageV1 :=
  matchingPackages pass.world pass.verified pass.canonical

/-- One page, on the unchanged index. -/
def page (number : Nat) (cursor : Option Units) :
    Except RegistryCatalogError SearchRegistryPackagesResultV1 :=
  search pass.world (.unchanged pass.verified)
    ⟨pass.query, pass.limits number, cursor.map JsValue.string⟩

/-- The packages of the pages from one on, which are at most so many, if the search takes every
cursor back. -/
def follow : Nat → Nat → Option Units →
    Option (Except RegistryCatalogError (List CatalogPackageSummaryV1))
  | 0, _, _ => none
  | pages + 1, number, cursor =>
    match pass.page number cursor with
    | .error error => some (.error error)
    | .ok result =>
      match result.nextCursor with
      | none => some (.ok result.items)
      | some next => (follow pages (number + 1) (some next)).map fun later =>
          later.map fun items => result.items ++ items

/-- The pages end, every cursor is taken back, and the packages listed are those that match, each
once, in the order of their ids. -/
def OnePass : Prop :=
  ∃ pages items, pass.follow pages 0 none = some (.ok items) ∧
    items.Perm (((pass.verified.packages.map Prod.snd).filter fun candidate =>
      matchesSearch pass.world candidate pass.canonical).map listed) ∧
    items.Pairwise fun left right => compareAscii left.packageId right.packageId < 0

/-- The position that a page begins at. -/
def position : Nat → Nat
  | 0 => 0
  | number + 1 => position number + pass.counts number

/-- Whether the cursor at the end of each page but the last fits. -/
def CursorsFit : Prop :=
  ∀ number package, pass.position (number + 1) < pass.matching.length →
    pass.matching[pass.position (number + 1) - 1]? = some package →
      Fits pass.world pass.canonical package.packageId

theorem counts_pos (number : Nat) : 1 ≤ pass.counts number := by
  have limited := pass.limited number
  unfold parseSearchLimit at limited
  split at limited
  · rw [← Except.ok.inj limited]
    decide
  · have accepted := Klura.mapError_ok.mp limited
    unfold StrictJson.parseInteger at accepted
    dsimp only at accepted
    split at accepted
    · split at accepted
      · rename_i within
        rw [← Except.ok.inj accepted]
        exact within.2.2.2.1
      · exact absurd accepted (by simp)
    · exact absurd accepted (by simp)

/-- What a page answers that a cursor leads to the position of. -/
def answer (number firstIndex : Nat) : SearchRegistryPackagesResultV1 :=
  ⟨pass.verified.sourceDigest, pass.canonical,
    ((pass.matching.drop firstIndex).take (pass.counts number)).map listed,
    if firstIndex + pass.counts number < pass.matching.length then
      ((pass.matching.drop firstIndex).take (pass.counts number)).getLast?.map fun last =>
        cursorText ⟨pass.canonical, pass.verified.sourceDigest, last.packageId⟩
    else none⟩

theorem page_first (number : Nat) : pass.page number none = .ok (pass.answer number 0) := by
  refine Klura.bind_ok.mpr ⟨_, pass.accepted, Klura.bind_ok.mpr ⟨_, pass.limited number,
    Klura.bind_ok.mpr ⟨none, rfl, ?_⟩⟩⟩
  exact Klura.bind_ok.mpr ⟨pass.verified, rfl, pageAt_eq (pass.counts_pos number)⟩

/-- The cursor of a package leads to the page behind it just when it fits. -/
theorem page_next (number : Nat) {index : Nat} (inside : index < pass.matching.length) :
    (Fits pass.world pass.canonical pass.matching[index].packageId →
      pass.page number (some (cursorText ⟨pass.canonical, pass.verified.sourceDigest,
        pass.matching[index].packageId⟩)) = .ok (pass.answer number (index + 1))) ∧
    (∀ result, pass.page number (some (cursorText ⟨pass.canonical, pass.verified.sourceDigest,
        pass.matching[index].packageId⟩)) = .ok result →
      Fits pass.world pass.canonical pass.matching[index].packageId) := by
  have member : pass.matching[index] ∈ pass.matching := List.getElem_mem inside
  have id := (matchingPackages_stable member).2
  have facts := @readSearchCursor_iff pass.world ⟨pass.canonical, pass.verified.sourceDigest,
    pass.matching[index].packageId⟩ id pass.verified.digest
  -- Nothing but these facts is needed of the text of the cursor.
  generalize cursorText ⟨pass.canonical, pass.verified.sourceDigest,
    pass.matching[index].packageId⟩ = text at facts ⊢
  obtain ⟨reads, read⟩ := facts
  constructor
  · intro fits
    have parsed : parseSearchCursor pass.world (some (.string text)) pass.canonical =
        .ok (some ⟨pass.canonical, pass.verified.sourceDigest, pass.matching[index].packageId⟩) :=
      Klura.mapError_ok.mpr (Klura.map_ok.mpr ⟨_, reads fits, rfl⟩)
    have bound : resolveCursorIndex (.unchanged pass.verified) pass.verified.sourceDigest =
        .ok pass.verified := if_neg (by simp)
    have there : (matchingPackages pass.world pass.verified pass.canonical).any (fun candidate =>
        candidate.packageId = pass.matching[index].packageId) = true :=
      List.any_eq_true.mpr ⟨_, member, by simp⟩
    have behind : firstIndexAfter (matchingPackages pass.world pass.verified pass.canonical)
        pass.matching[index].packageId = index + 1 :=
      firstIndexAfter_getElem (matchingPackages_ascending _ _ _) inside
    refine Klura.bind_ok.mpr ⟨_, pass.accepted, Klura.bind_ok.mpr ⟨_, pass.limited number,
      Klura.bind_ok.mpr ⟨_, parsed, Klura.bind_ok.mpr ⟨pass.verified, bound, ?_⟩⟩⟩⟩
    dsimp only
    rw [there, behind]
    exact pageAt_eq (pass.counts_pos number)
  · intro result accepted
    obtain ⟨canonical, queried, accepted⟩ := Klura.bind_ok.mp accepted
    obtain ⟨limit, -, accepted⟩ := Klura.bind_ok.mp accepted
    obtain ⟨cursor, parsed, -⟩ := Klura.bind_ok.mp accepted
    rw [pass.accepted] at queried
    obtain rfl := Except.ok.inj queried
    obtain ⟨found, reading, -⟩ := Klura.map_ok.mp (Klura.mapError_ok.mp parsed)
    exact read found reading

/-- The cursor that leads to a page: none to the first, and to a later one that of the package
before it. -/
inductive LeadsTo : Nat → Option Units → Prop
  | first : LeadsTo 0 none
  | later {number : Nat} {package : RegistryPackageV1}
      (inside : pass.position (number + 1) < pass.matching.length)
      (before : pass.matching[pass.position (number + 1) - 1]? = some package) :
      LeadsTo (number + 1)
        (some (cursorText ⟨pass.canonical, pass.verified.sourceDigest, package.packageId⟩))

theorem position_mono {first second : Nat} (order : first ≤ second) :
    pass.position first ≤ pass.position second := by
  induction order with
  | refl => exact Nat.le_refl _
  | step _ ih => exact Nat.le_trans ih (Nat.le_add_right _ _)

theorem position_ge (number : Nat) : number ≤ pass.position number := by
  induction number with
  | zero => exact Nat.le_refl _
  | succ number ih =>
    have some := pass.counts_pos number
    rw [position]
    omega

theorem page_of_leads {number : Nat} {cursor : Option Units} (leads : pass.LeadsTo number cursor) :
    (pass.CursorsFit → pass.page number cursor = .ok (pass.answer number (pass.position number))) ∧
    (∀ result, pass.page number cursor = .ok result →
      result = pass.answer number (pass.position number) ∧
        ∀ package, number ≠ 0 → pass.matching[pass.position number - 1]? = some package →
          Fits pass.world pass.canonical package.packageId) := by
  cases leads with
  | first =>
    refine ⟨fun _ => pass.page_first 0, fun result answered => ?_⟩
    rw [pass.page_first 0] at answered
    exact ⟨(Except.ok.inj answered).symm, fun _ differs => absurd rfl differs⟩
  | @later number package inside before =>
    obtain ⟨within, rfl⟩ := List.getElem?_eq_some_iff.mp before
    have positive := pass.position_ge (number + 1)
    have behind : pass.position (number + 1) - 1 + 1 = pass.position (number + 1) := by omega
    obtain ⟨fits, answered⟩ := pass.page_next (number + 1) within
    rw [behind] at fits
    refine ⟨fun fit => fits (fit number _ inside before), fun result answer => ?_⟩
    have fit := answered result answer
    rw [fits fit] at answer
    refine ⟨(Except.ok.inj answer).symm, fun package _ found => ?_⟩
    rw [before] at found
    obtain rfl := Option.some.inj found
    exact fit

theorem answer_next (number : Nat)
    (more : pass.position (number + 1) < pass.matching.length) : ∃ next,
      (pass.answer number (pass.position number)).nextCursor = some next ∧
        pass.LeadsTo (number + 1) (some next) := by
  have holds := pass.counts_pos number
  have ends : pass.position number + pass.counts number = pass.position (number + 1) := rfl
  have inside : pass.position (number + 1) - 1 < pass.matching.length := by omega
  have last : ((pass.matching.drop (pass.position number)).take
      (pass.counts number)).getLast? = some pass.matching[pass.position (number + 1) - 1] := by
    rw [List.getLast?_eq_getElem?, List.length_take, List.length_drop,
      Nat.min_eq_left (by omega), List.getElem?_take_of_lt (by omega), List.getElem?_drop,
      List.getElem?_eq_getElem (by omega)]
    congr 2
    omega
  refine ⟨_, ?_, .later more (List.getElem?_eq_getElem inside)⟩
  simp only [answer, ends, more, if_true, last, Option.map_some]

theorem answer_last (number : Nat)
    (none : ¬ pass.position (number + 1) < pass.matching.length) :
    (pass.answer number (pass.position number)).nextCursor = Option.none := by
  have ends : pass.position number + pass.counts number = pass.position (number + 1) := rfl
  simp only [answer, ends, none, if_false]

/-- Where all cursors fit, following them lists all packages from a page on. -/
theorem follow_of_fit (fit : pass.CursorsFit) : ∀ (pages number : Nat) (cursor : Option Units),
    pass.LeadsTo number cursor → pass.matching.length < pages + number →
      pass.follow pages number cursor =
        some (.ok ((pass.matching.drop (pass.position number)).map listed)) := by
  intro pages
  -- The induction is on the pages that may be left; each begins behind the one before it.
  induction pages with
  | zero =>
    intro number cursor leads few
    have far := pass.position_ge number
    cases leads with
    | first => omega
    | later inside before => omega
  | succ pages ih =>
    intro number cursor leads few
    have answered := (pass.page_of_leads leads).1 fit
    rw [follow, answered]
    dsimp only
    have ends : pass.position (number + 1) = pass.position number + pass.counts number := rfl
    by_cases more : pass.position (number + 1) < pass.matching.length
    · obtain ⟨next, named, onward⟩ := pass.answer_next number more
      rw [named]
      dsimp only
      rw [ih (number + 1) (some next) onward (by omega)]
      simp only [answer, Option.map_some, Except.map, ends, ← List.map_append, ← List.drop_drop,
        List.take_append_drop]
    · rw [pass.answer_last number more]
      dsimp only
      have all : (pass.matching.drop (pass.position number)).take (pass.counts number) =
          pass.matching.drop (pass.position number) :=
        List.take_of_length_le (by rw [List.length_drop]; omega)
      simp only [answer, all]

/-- Where following the cursors succeeds from a page on, those of the pages fit. -/
theorem fit_of_follow : ∀ (pages number : Nat) (cursor : Option Units)
    (items : List CatalogPackageSummaryV1), pass.LeadsTo number cursor →
      pass.follow pages number cursor = some (.ok items) →
        ∀ later package, number ≤ later → pass.position (later + 1) < pass.matching.length →
          pass.matching[pass.position (later + 1) - 1]? = some package →
            Fits pass.world pass.canonical package.packageId := by
  intro pages
  induction pages with
  | zero =>
    intro number cursor items _ followed
    exact absurd followed (by simp [follow])
  | succ pages ih =>
    intro number cursor items leads followed later package order inside before
    have more : pass.position (number + 1) < pass.matching.length :=
      Nat.lt_of_le_of_lt (pass.position_mono (by omega)) inside
    rw [follow] at followed
    split at followed
    · exact absurd followed (by simp)
    · rename_i result answered
      obtain ⟨rfl, -⟩ := (pass.page_of_leads leads).2 result answered
      obtain ⟨next, named, onward⟩ := pass.answer_next number more
      rw [named] at followed
      obtain ⟨rest, continued, done⟩ := Option.map_eq_some_iff.mp followed
      obtain ⟨others, rfl, -⟩ := Klura.map_ok.mp done
      rcases Nat.lt_or_ge number later with further | here
      · exact ih (number + 1) (some next) others onward continued later package further inside before
      · -- The next page is answered, so that the cursor to it fits.
        obtain rfl : number = later := by omega
        cases pages with
        | zero => exact absurd continued (by simp [follow])
        | succ pages =>
          rw [follow] at continued
          split at continued
          · exact absurd continued (by simp)
          · rename_i answer there
            exact ((pass.page_of_leads onward).2 answer there).2 package (by omega) before

/-- Following the cursors of a search is one pass over the matching packages just when the cursor at
the end of each page but the last fits. -/
theorem onePass_iff : pass.OnePass ↔ pass.CursorsFit := by
  constructor
  · rintro ⟨pages, items, followed, -, -⟩ number package inside before
    exact pass.fit_of_follow pages 0 none items .first followed number package (Nat.zero_le _)
      inside before
  · intro fit
    refine ⟨pass.matching.length + 1, pass.matching.map listed, ?_, ?_, ?_⟩
    · exact pass.follow_of_fit fit _ 0 none .first (by omega)
    · exact (List.perm_insertionSort _ _).map listed
    · rw [List.pairwise_map]
      refine (matchingPackages_ascending _ _ _).imp_of_mem fun left right order => ?_
      rw [(projectPackageSummary_listed (matchingPackages_stable left).1).2,
        (projectPackageSummary_listed (matchingPackages_stable right).1).2]
      exact order

end SearchPass

/-- The functions of the language, as they are on ASCII texts. -/
def asciiWorld : TextWorld where
  normalizeNFKC := id
  toLocaleLowerCase := List.map fun unit => if isUpper unit then unit + 32 else unit

/-- A package with a quotation mark in its description. -/
def quotingPackage (id : String) : RegistryPackageV1 where
  packageId := ascii id
  displayName := ascii id
  description := ascii "prints \"quotes\""
  domains := []
  tags := []
  stableVersion := ascii "1.0.0"
  versions := [(ascii "1.0.0", ⟨[]⟩)]

theorem parseRegistryPackageId_ok {id : Units} (shaped : isPackageId id = true)
    (short : utf8Length id ≤ 64) (small : ∀ unit ∈ id, unit.toNat < 0x80)
    (open_ : LOCAL_PACKAGE_ID_PREFIX_V1.isPrefixOf id = false) (field : Units) :
    parseRegistryPackageId (.string id) field = .ok id :=
  Klura.bind_ok.mpr ⟨id, StrictJson.parseForm_string shaped short small,
    by rw [if_neg (by simp [open_])]⟩

/-- An index with two such packages. -/
def quotingIndex : VerifiedRegistryIndexV1 where
  packages := [(ascii "first", quotingPackage "first"), (ascii "second", quotingPackage "second")]
  sourceDigest := List.replicate 64 48
  distinct := by decide
  keyed := by decide
  ids := by
    have first := @parseRegistryPackageId_ok (ascii "first") (by decide) (by decide)
      (forall_of_all (by decide)) (by decide)
    have second := @parseRegistryPackageId_ok (ascii "second") (by decide) (by decide)
      (forall_of_all (by decide)) (by decide)
    intro entry member field
    rcases List.mem_cons.mp member with rfl | later
    · exact first field
    · obtain rfl := List.mem_singleton.mp later
      exact second field
  stable := by decide
  digest := fun field => StrictJson.parseForm_string (by decide +kernel) (by decide +kernel)
    (forall_of_all (by decide +kernel))

/-- A query of two hundred and fifty-six quotation marks, with spaces between them. -/
def quotingQuery : Units := (List.replicate 255 [34, 32]).flatten ++ [34]

/-- The search for that query with one package a page. -/
def quotingPass : SearchPass where
  world := asciiWorld
  verified := quotingIndex
  query := some (.string quotingQuery)
  canonical := quotingQuery
  accepted := by
    have short : ¬ SEARCH_QUERY_BYTES_V1 < utf8Length quotingQuery := by decide +kernel
    have canonical : canonicalQuery asciiWorld quotingQuery = quotingQuery := by decide +kernel
    simp only [parseSearchQuery, StrictJson.parseString, if_neg short, asCatalogError,
      Except.map, Klura.ok_mapError, canonical]
  limits := fun _ => some (.number (.ofNat 1 one_small))
  counts := fun _ => 1
  limited := by
    intro page
    have accepted := @parseInteger_one (ascii "search.limit") SEARCH_PAGE_MAXIMUM_V1 (by decide)
    simp only [parseSearchLimit, accepted, asCatalogError, Klura.ok_mapError]

/-- The search emits a cursor that it does not take back. -/
theorem emitted_cursor_refused : quotingPass.matching.map RegistryPackageV1.packageId =
      [ascii "first", ascii "second"] ∧
    (∃ next, (quotingPass.answer 0 0).nextCursor = some next ∧
      quotingPass.page 0 none = .ok (quotingPass.answer 0 0) ∧
      ∀ result, quotingPass.page 1 (some next) ≠ .ok result) ∧
    ¬ ∀ pass : SearchPass, pass.OnePass := by
  have ids : quotingPass.matching.map RegistryPackageV1.packageId =
      [ascii "first", ascii "second"] := by decide +kernel
  have length : quotingPass.matching.length = 2 := by
    rw [← List.length_map (f := RegistryPackageV1.packageId), ids]
    rfl
  have more : quotingPass.position 1 < quotingPass.matching.length := by
    rw [length]
    decide
  obtain ⟨package, found⟩ : ∃ package, quotingPass.matching[quotingPass.position 1 - 1]? =
      some package := ⟨_, List.getElem?_eq_getElem (by omega)⟩
  have named : package.packageId = ascii "first" := by
    have mapped := congrArg (fun list => list[0]?) ids
    simp only [List.getElem?_map] at mapped
    have here : quotingPass.matching[0]? = some package := found
    rw [here] at mapped
    exact Option.some.inj mapped
  have large : ¬ Fits asciiWorld quotingQuery package.packageId := by
    rintro ⟨-, -, room⟩
    rw [named] at room
    exact absurd room (by decide +kernel)
  obtain ⟨next, emitted, leads⟩ := quotingPass.answer_next 0 more
  refine ⟨ids, ⟨next, emitted, quotingPass.page_first 0, fun result answered => ?_⟩, fun all => ?_⟩
  · exact large (((quotingPass.page_of_leads leads).2 result answered).2 package (by decide) found)
  · obtain ⟨pages, items, followed, -, -⟩ := all quotingPass
    exact large (quotingPass.fit_of_follow pages 0 none items .first followed 0 package
      (Nat.le_refl _) more found)

end RegistryCatalog

end Klura
