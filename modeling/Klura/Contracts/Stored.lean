import Klura.Contracts.CanonicalBytes
import Klura.Contracts.Fields

/-! Values stored as canonical bytes, and what a strict reader makes of the bytes. -/

namespace Klura

namespace JsValue

theorem Same.string {value : JsValue} {text : Units} (same : value.Same (.string text)) :
    value = .string text := by
  cases value with
  | string other => simpa [Same, normal] using same
  | number value => cases value <;> simp [Same, normal] at same
  | _ => simp [Same, normal] at same

theorem Same.null {value : JsValue} (same : value.Same .null) : value = .null := by
  cases value with
  | null => rfl
  | number value => cases value <;> simp [Same, normal] at same
  | _ => simp [Same, normal] at same

theorem Same.of_null {value : JsValue} (same : JsValue.Same .null value) : value = .null :=
  Same.null same.symm

theorem Same.boolean {value : JsValue} {truth : Bool} (same : value.Same (.boolean truth)) :
    value = .boolean truth := by
  cases value with
  | boolean other => simpa [Same, normal] using same
  | number value => cases value <;> simp [Same, normal] at same
  | _ => simp [Same, normal] at same

theorem Same.number {value : JsValue} {negative : Bool} {magnitude : Magnitude}
    (same : value.Same (.number (.finite negative magnitude))) :
    ∃ sign, value = .number (.finite sign magnitude) ∧
      (magnitude.units ≠ 0 → sign = negative) := by
  cases value with
  | number other =>
    cases other with
    | finite sign size =>
      simp only [Same, normal, JsValue.number.injEq, Double.finite.injEq] at same
      obtain ⟨signs, rfl⟩ := same
      refine ⟨sign, rfl, fun positive => ?_⟩
      simpa [positive] using signs
    | infinite sign => simp [Same, normal] at same
  | _ => simp [Same, normal] at same

theorem Same.object {value : JsValue} {entries : List (Units × JsValue)}
    (same : value.Same (.object entries)) (distinct : (entries.map Prod.fst).Nodup) :
    ∃ others, value = .object others ∧ (others.map Prod.fst).Perm (entries.map Prod.fst) ∧
      ∀ key inner, OrderedMap.get? entries key = some inner →
        ∃ other, OrderedMap.get? others key = some other ∧ other.Same inner := by
  cases value with
  | number other => cases other <;> simp [Same, normal] at same
  | object others =>
    simp only [Same, normal_object, JsValue.object.injEq] at same
    have perm : (others.map fun entry => (entry.1, entry.2.normal)).Perm
        (entries.map fun entry => (entry.1, entry.2.normal)) :=
      (StrictJson.sortEntries_perm _).symm.trans (same ▸ StrictJson.sortEntries_perm _)
    have keys := perm.map Prod.fst
    simp only [List.map_map] at keys
    have keys : (others.map Prod.fst).Perm (entries.map Prod.fst) := keys
    refine ⟨others, rfl, keys, fun key inner found => ?_⟩
    have inside := perm.mem_iff.mpr (List.mem_map_of_mem (f := fun entry : Units × JsValue =>
      (entry.1, entry.2.normal)) (OrderedMap.mem_of_get? found))
    obtain ⟨other, member, normals⟩ := List.mem_map.mp inside
    simp only [Prod.mk.injEq] at normals
    refine ⟨other.2, ?_, normals.2⟩
    rw [← normals.1]
    exact OrderedMap.get?_of_mem (keys.nodup_iff.mpr distinct) member
  | _ => simp [Same, normal] at same

mutual

/-- Whether no object of a value has a key twice, which no value of the language can have. -/
def KeysDiffer : JsValue → Prop
  | .null | .boolean _ | .string _ | .number _ => True
  | .array items => itemsDiffer items
  | .object entries => (entries.map Prod.fst).Nodup ∧ entriesDiffer entries

/-- Whether no object of an array's values has a key twice. -/
def itemsDiffer : List JsValue → Prop
  | [] => True
  | item :: rest => item.KeysDiffer ∧ itemsDiffer rest

/-- Whether no object of an object's values has a key twice. -/
def entriesDiffer : List (Units × JsValue) → Prop
  | [] => True
  | (_, value) :: rest => value.KeysDiffer ∧ entriesDiffer rest

end

mutual

/-- Whether no object of a value has a key twice can be decided. -/
def decideKeysDiffer : (value : JsValue) → Decidable value.KeysDiffer
  | .null | .boolean _ | .string _ | .number _ => isTrue trivial
  | .array items => decideItemsDiffer items
  | .object entries =>
    have := decideEntriesDiffer entries
    inferInstanceAs (Decidable ((entries.map Prod.fst).Nodup ∧ entriesDiffer entries))

/-- Whether no object of an array's values has a key twice can be decided. -/
def decideItemsDiffer : (items : List JsValue) → Decidable (itemsDiffer items)
  | [] => isTrue trivial
  | item :: rest =>
    have := item.decideKeysDiffer
    have := decideItemsDiffer rest
    inferInstanceAs (Decidable (item.KeysDiffer ∧ itemsDiffer rest))

/-- Whether no object of an object's values has a key twice can be decided. -/
def decideEntriesDiffer : (entries : List (Units × JsValue)) → Decidable (entriesDiffer entries)
  | [] => isTrue trivial
  | (_, value) :: rest =>
    have := value.decideKeysDiffer
    have := decideEntriesDiffer rest
    inferInstanceAs (Decidable (value.KeysDiffer ∧ entriesDiffer rest))

end

instance (value : JsValue) : Decidable value.KeysDiffer := value.decideKeysDiffer

theorem keysDiffer_array (items : List JsValue) :
    (array items).KeysDiffer ↔ ∀ item ∈ items, item.KeysDiffer := by
  rw [KeysDiffer]
  induction items with
  | nil => simp [itemsDiffer]
  | cons item rest ih => simp [itemsDiffer, ih]

theorem keysDiffer_object (entries : List (Units × JsValue)) : (object entries).KeysDiffer ↔
    (entries.map Prod.fst).Nodup ∧ ∀ entry ∈ entries, entry.2.KeysDiffer := by
  have values : entriesDiffer entries ↔ ∀ entry ∈ entries, entry.2.KeysDiffer := by
    induction entries with
    | nil => simp [entriesDiffer]
    | cons entry rest ih => simp [entriesDiffer, ih]
  rw [KeysDiffer, values]

theorem IsJson.keysDiffer {value : JsValue} (json : value.IsJson) : value.KeysDiffer := by
  induction value using JsValue.inductionOn with
  | null | boolean | number | string => trivial
  | array items ih =>
    rw [isJson_array] at json
    rw [keysDiffer_array]
    exact fun item member => ih item member (json item member)
  | object entries ih =>
    rw [isJson_object] at json
    rw [keysDiffer_object]
    exact ⟨json.1, fun entry member => ih entry member (json.2 entry member)⟩

end JsValue

namespace StrictJson

mutual

/-- Checks that a value at a depth is one of JSON and nests no deeper than a bound. -/
def assertJsonValueAt : JsValue → Units → Nat → Nat → Except PublicContractError Unit
  | value, field, depth, maximumDepth =>
    if maximumDepth < depth then
      .error { field, message := ascii "exceeds maximum depth " ++ natText maximumDepth }
    else
      match value with
      | .null | .boolean _ | .string _ => .ok ()
      | .number (.infinite _) => fail field "must not contain a non-finite number"
      | .number (.finite ..) => .ok ()
      | .array items => assertItemsAt items field 0 (depth + 1) maximumDepth
      | .object entries => assertEntriesAt entries field (depth + 1) maximumDepth

/-- Checks the values of an array. -/
def assertItemsAt : List JsValue → Units → Nat → Nat → Nat → Except PublicContractError Unit
  | [], _, _, _, _ => .ok ()
  | item :: rest, field, index, depth, maximumDepth => do
    assertJsonValueAt item (field ++ ascii "[" ++ natText index ++ ascii "]") depth maximumDepth
    assertItemsAt rest field (index + 1) depth maximumDepth

/-- Checks the values of an object. -/
def assertEntriesAt : List (Units × JsValue) → Units → Nat → Nat → Except PublicContractError Unit
  | [], _, _, _ => .ok ()
  | (key, value) :: rest, field, depth, maximumDepth => do
    assertJsonValueAt value (memberField field key) depth maximumDepth
    assertEntriesAt rest field depth maximumDepth

end

/-- Checks that a value is one of JSON and nests no deeper than a bound. -/
def assertJsonValue (value : JsValue) (field : Units) (maximumDepth : Nat) :
    Except PublicContractError Unit :=
  assertJsonValueAt value field 0 maximumDepth

theorem bothPass_iff {first second : Except PublicContractError Unit} :
    (first >>= fun _ => second) = .ok () ↔ first = .ok () ∧ second = .ok () := by
  cases first with
  | error =>
    constructor
    · nofun
    · nofun
  | ok _ => exact (and_iff_right rfl).symm

variable {depth maximumDepth : Nat} {field : Units}

theorem assertItemsAt_iff {items : List JsValue} {property : JsValue → Prop} {index : Nat}
    (each : ∀ item ∈ items, ∀ field : Units, assertJsonValueAt item field depth maximumDepth = .ok () ↔ property item) :
    assertItemsAt items field index depth maximumDepth = .ok () ↔ ∀ item ∈ items, property item := by
  induction items generalizing index with
  | nil => simp [assertItemsAt]
  | cons item rest ih =>
    rw [assertItemsAt, bothPass_iff, each item (by simp),
      ih fun other member => each other (by simp [member])]
    simp

theorem assertEntriesAt_iff {entries : List (Units × JsValue)} {property : Units × JsValue → Prop}
    (each : ∀ entry ∈ entries, ∀ field : Units, assertJsonValueAt entry.2 field depth maximumDepth = .ok () ↔ property entry) :
    assertEntriesAt entries field depth maximumDepth = .ok () ↔
      ∀ entry ∈ entries, property entry := by
  induction entries with
  | nil => simp [assertEntriesAt]
  | cons entry rest ih =>
    obtain ⟨key, value⟩ := entry
    rw [assertEntriesAt, bothPass_iff, each (key, value) (by simp),
      ih fun other member => each other (by simp [member])]
    simp

variable {value : JsValue}

/-- The check of a value passes exactly when it is of JSON and nests no deeper. -/
theorem assertJsonValueAt_iff (differ : value.KeysDiffer) :
    assertJsonValueAt value field depth maximumDepth = .ok () ↔
      value.IsJson ∧ depth + value.depth ≤ maximumDepth := by
  induction value using JsValue.inductionOn generalizing field depth with
  | null | boolean | string =>
    unfold assertJsonValueAt
    by_cases deep : maximumDepth < depth
    · simp [deep, JsValue.IsJson, JsValue.depth]
    · simp [deep, JsValue.IsJson, JsValue.depth]
      omega
  | number value =>
    unfold assertJsonValueAt
    by_cases deep : maximumDepth < depth
    · cases value <;> simp [deep, JsValue.IsJson, JsValue.depth]
    · cases value with
      | finite negative magnitude =>
        simp [deep, JsValue.IsJson, JsValue.depth]
        omega
      | infinite negative => simp [deep, JsValue.IsJson, fail]
  | array items ih =>
    rw [JsValue.keysDiffer_array] at differ
    unfold assertJsonValueAt
    by_cases deep : maximumDepth < depth
    · simp only [if_pos deep, reduceCtorEq, false_iff, not_and]
      omega
    · have levels := JsValue.depth_array items (maximumDepth - depth)
      have bound : depth + (JsValue.array items).depth ≤ maximumDepth ↔
          ∀ item ∈ items, item.depth < maximumDepth - depth := by
        rw [← levels]
        omega
      rw [if_neg deep, bound, JsValue.isJson_array, ← forall₂_and]
      refine (assertItemsAt_iff fun item member field => ih item member (differ item member)).trans ?_
      refine forall₂_congr fun item _ => and_congr_right fun _ => ?_
      omega
  | object entries ih =>
    rw [JsValue.keysDiffer_object] at differ
    unfold assertJsonValueAt
    by_cases deep : maximumDepth < depth
    · simp only [if_pos deep, reduceCtorEq, false_iff, not_and]
      omega
    · have levels := JsValue.depth_object entries (maximumDepth - depth)
      have bound : depth + (JsValue.object entries).depth ≤ maximumDepth ↔
          ∀ entry ∈ entries, entry.2.depth < maximumDepth - depth := by
        rw [← levels]
        omega
      rw [if_neg deep, bound, JsValue.isJson_object, and_iff_right differ.1, ← forall₂_and]
      have each : ∀ entry ∈ entries, ∀ field : Units,
          assertJsonValueAt entry.2 field (depth + 1) maximumDepth = .ok () ↔
            entry.2.IsJson ∧ depth + 1 + entry.2.depth ≤ maximumDepth :=
        fun entry member field => ih entry member (differ.2 entry member)
      refine (assertEntriesAt_iff each).trans ?_
      refine forall₂_congr fun entry _ => and_congr_right fun _ => ?_
      omega

theorem assertJsonValue_json {value : JsValue} (json : value.IsJson) {field : Units}
    {maximumDepth : Nat} :
    assertJsonValue value field maximumDepth = .ok () ↔ value.depth ≤ maximumDepth := by
  unfold assertJsonValue
  rw [assertJsonValueAt_iff json.keysDiffer, and_iff_right json, Nat.zero_add]

/-- Reads the value that a file's bytes are the text of. -/
def parseFile (bytes : Bytes) (field : Units) (maximumBytes maximumDepth : Nat) :
    Except PublicContractError JsValue :=
  parseStrictJson field maximumDepth (decodeUtf8 bytes) maximumBytes

/-- The bytes that a value is stored as. -/
def storedBytes (value : JsValue) : Bytes := encodeUtf8 (syntaxOf value).text

theorem storedBytes_length (value : JsValue) :
    (storedBytes value).length = canonicalBytes value := encodeUtf8_length _

variable {maximumBytes : Nat}

theorem parseFile_stored (json : value.IsJson) (shallow : value.depth ≤ maximumDepth)
    (small : canonicalBytes value ≤ maximumBytes) (field : Units) :
    ∃ read, parseFile (storedBytes value) field maximumBytes maximumDepth = .ok read ∧
      read.Same value := by
  refine ⟨(syntaxOf value).value, ?_, syntaxOf_value json⟩
  unfold parseFile storedBytes
  rw [decodeUtf8_canonical]
  exact parseStrictJson_canonical json shallow field small

theorem parseFile_bounds {read : JsValue}
    (reads : parseFile (storedBytes value) field maximumBytes maximumDepth = .ok read) :
    canonicalBytes value ≤ maximumBytes := by
  unfold parseFile storedBytes at reads
  rw [decodeUtf8_canonical, parseStrictJson_iff] at reads
  exact reads.1

end StrictJson

end Klura
