import Klura.Contracts.Scanner
import Klura.Library.DecimalNumeral

/-! The canonical text of a value as a text of the grammar, which stands for the same value. -/

namespace Klura

namespace JsValue

mutual

/-- Whether a value is one of JSON: its numbers are finite and its objects repeat no key. -/
def IsJson : JsValue → Prop
  | .null | .boolean _ | .string _ | .number (.finite ..) => True
  | .number (.infinite _) => False
  | .array items => itemsJson items
  | .object entries => (entries.map Prod.fst).Nodup ∧ entriesJson entries

/-- Whether the values of an array are of JSON. -/
def itemsJson : List JsValue → Prop
  | [] => True
  | item :: rest => item.IsJson ∧ itemsJson rest

/-- Whether the values of an object are of JSON. -/
def entriesJson : List (Units × JsValue) → Prop
  | [] => True
  | (_, value) :: rest => value.IsJson ∧ entriesJson rest

end

mutual

/-- How many levels of containers a value nests below its own. -/
def depth : JsValue → Nat
  | .null | .boolean _ | .number _ | .string _ => 0
  | .array items => itemsDepth items
  | .object entries => entriesDepth entries

/-- The levels that the values of an array add to it. -/
def itemsDepth : List JsValue → Nat
  | [] => 0
  | item :: rest => max (item.depth + 1) (itemsDepth rest)

/-- The levels that the values of an object add to it. -/
def entriesDepth : List (Units × JsValue) → Nat
  | [] => 0
  | (_, value) :: rest => max (value.depth + 1) (entriesDepth rest)

end

mutual

/-- A value with its keys in order and its zeros without a sign. -/
def normal : JsValue → JsValue
  | .number (.finite negative magnitude) =>
    .number (.finite (negative && decide (magnitude.units ≠ 0)) magnitude)
  | .array items => .array (normalItems items)
  | .object entries => .object (StrictJson.sortEntries (normalEntries entries))
  | value => value

/-- The values of an array in normal form. -/
def normalItems : List JsValue → List JsValue
  | [] => []
  | item :: rest => item.normal :: normalItems rest

/-- The entries of an object with their values in normal form. -/
def normalEntries : List (Units × JsValue) → List (Units × JsValue)
  | [] => []
  | (key, value) :: rest => (key, value.normal) :: normalEntries rest

end

/-- Two values that differ in the order of keys and the sign of zeros at most. -/
def Same (left right : JsValue) : Prop := left.normal = right.normal

@[elab_as_elim]
theorem inductionOn {motive : JsValue → Prop} (null : motive .null)
    (boolean : ∀ value, motive (.boolean value)) (number : ∀ value, motive (.number value))
    (string : ∀ value, motive (.string value))
    (array : ∀ items, (∀ item ∈ items, motive item) → motive (.array items))
    (object : ∀ entries, (∀ entry ∈ entries, motive entry.2) → motive (.object entries))
    (value : JsValue) : motive value := by
  apply @JsValue.rec motive (fun items => ∀ item ∈ items, motive item)
    (fun entries => ∀ entry ∈ entries, motive entry.2) (fun entry => motive entry.2)
  · exact null
  · exact boolean
  · exact number
  · exact string
  · exact array
  · exact object
  · exact nofun
  · intro item rest head tail other member
    rcases List.mem_cons.mp member with rfl | later
    · exact head
    · exact tail other later
  · exact nofun
  · intro entry rest head tail other member
    rcases List.mem_cons.mp member with rfl | later
    · exact head
    · exact tail other later
  · exact fun _ _ part => part

theorem isJson_array (items : List JsValue) :
    (array items).IsJson ↔ ∀ item ∈ items, item.IsJson := by
  show itemsJson items ↔ _
  induction items with
  | nil => exact ⟨fun _ _ member => absurd member List.not_mem_nil, fun _ => trivial⟩
  | cons item rest ih => exact (and_congr_right' ih).trans List.forall_mem_cons.symm

theorem isJson_object (entries : List (Units × JsValue)) :
    (object entries).IsJson ↔
      (entries.map Prod.fst).Nodup ∧ ∀ entry ∈ entries, entry.2.IsJson := by
  have values : entriesJson entries ↔ ∀ entry ∈ entries, entry.2.IsJson := by
    induction entries with
    | nil => exact ⟨fun _ _ member => absurd member List.not_mem_nil, fun _ => trivial⟩
    | cons entry rest ih =>
      rw [List.forall_mem_cons, ← ih]
      rfl
  exact and_congr_right' values

theorem depth_array (items : List JsValue) (levels : Nat) :
    (array items).depth ≤ levels ↔ ∀ item ∈ items, item.depth < levels := by
  show itemsDepth items ≤ levels ↔ _
  induction items with
  | nil => exact ⟨fun _ _ member => absurd member List.not_mem_nil, fun _ => Nat.zero_le levels⟩
  | cons item rest ih =>
    rw [List.forall_mem_cons, ← ih]
    exact max_le_iff

theorem depth_object (entries : List (Units × JsValue)) (levels : Nat) :
    (object entries).depth ≤ levels ↔ ∀ entry ∈ entries, entry.2.depth < levels := by
  show entriesDepth entries ≤ levels ↔ _
  induction entries with
  | nil => exact ⟨fun _ _ member => absurd member List.not_mem_nil, fun _ => Nat.zero_le levels⟩
  | cons entry rest ih =>
    rw [List.forall_mem_cons, ← ih]
    exact max_le_iff

theorem normal_array (items : List JsValue) : (array items).normal = .array (items.map normal) := by
  have values : normalItems items = items.map normal := by
    induction items with
    | nil => rfl
    | cons item rest ih => exact congrArg (item.normal :: ·) ih
  exact congrArg array values

theorem normal_object (entries : List (Units × JsValue)) : (object entries).normal =
    .object (StrictJson.sortEntries (entries.map fun entry => (entry.1, entry.2.normal))) := by
  have values : normalEntries entries = entries.map fun entry => (entry.1, entry.2.normal) := by
    induction entries with
    | nil => rfl
    | cons entry rest ih => exact congrArg ((entry.1, entry.2.normal) :: ·) ih
  exact congrArg (fun entries => object (StrictJson.sortEntries entries)) values

end JsValue

namespace StrictJson

theorem compareJsonKeys_iff (left right : Units) :
    compareJsonKeys left right = true ↔ left.map UInt16.toNat ≤ right.map UInt16.toNat := by
  simp [compareJsonKeys]

theorem compareJsonKeys_antisymm {left right : Units} (before : compareJsonKeys left right = true)
    (after : compareJsonKeys right left = true) : left = right := by
  rw [compareJsonKeys_iff] at before after
  have same := le_antisymm before after
  exact (List.map_injective_iff.mpr fun _ _ => UInt16.toNat_inj.mp) same

variable {α β : Type}

theorem sortEntries_perm (entries : List (Units × α)) : (sortEntries entries).Perm entries :=
  List.perm_insertionSort _ entries

theorem sortEntries_sorted (entries : List (Units × α)) :
    (sortEntries entries).Pairwise fun left right => compareJsonKeys left.1 right.1 = true := by
  have total : Std.Total fun left right : Units × α => compareJsonKeys left.1 right.1 = true :=
    ⟨fun left right => by simp only [compareJsonKeys_iff]; exact le_total _ _⟩
  have trans : IsTrans (Units × α) fun left right => compareJsonKeys left.1 right.1 = true :=
    ⟨fun left middle right => by simp only [compareJsonKeys_iff]; exact le_trans⟩
  exact List.pairwise_insertionSort _ entries

theorem sortEntries_congr {left right : List (Units × α)} (same : left.Perm right)
    (distinct : (left.map Prod.fst).Nodup) : sortEntries left = sortEntries right := by
  have perm := (sortEntries_perm left).trans (same.trans (sortEntries_perm right).symm)
  refine List.Perm.eq_of_pairwise ?_ (sortEntries_sorted left) (sortEntries_sorted right) perm
  intro first second fromLeft fromRight before after
  have keys := compareJsonKeys_antisymm before after
  -- Distinct keys make the entry of a key the only one.
  exact List.inj_on_of_nodup_map distinct ((sortEntries_perm left).mem_iff.mp fromLeft)
    (same.mem_iff.mpr ((sortEntries_perm right).mem_iff.mp fromRight)) keys

theorem sortEntries_map (change : α → β) (entries : List (Units × α)) :
    (sortEntries entries).map (fun entry => (entry.1, change entry.2))
      = sortEntries (entries.map fun entry => (entry.1, change entry.2)) := by
  unfold sortEntries
  apply List.map_insertionSort
  intro _ _ _ _
  rfl

theorem sortEntries_sort (entries : List (Units × α)) :
    sortEntries (sortEntries entries) = sortEntries entries :=
  (sortEntries_sorted entries).insertionSort_eq

theorem sortEntries_keys (entries : List (Units × α)) :
    ((sortEntries entries).map Prod.fst).Perm (entries.map Prod.fst) :=
  (sortEntries_perm entries).map Prod.fst

theorem unicodeEscape_unit (unit : UInt16) : (unicodeEscape unit).unit = unit := by
  apply UInt16.toNat_inj.mp
  have bound := unit.toNat_lt
  simp only [unicodeEscape, Piece.unit, lowerHex, hexUnit, Fin.ofNat, UInt16.toNat_ofNat']
  omega

theorem plainUnit_unit (unit : UInt16) : (plainUnit unit).unit = unit := by
  unfold plainUnit
  split
  · rfl
  · exact unicodeEscape_unit unit

theorem ite_unit {condition : Prop} [Decidable condition] {unit : UInt16} {first second : Piece}
    (yes : condition → first.unit = unit) (no : second.unit = unit) :
    (if condition then first else second).unit = unit := by
  split
  · exact yes ‹condition›
  · exact no

theorem quoteUnit_unit (unit : UInt16) : (quoteUnit unit).unit = unit :=
  ite_unit Eq.symm <| ite_unit Eq.symm <| ite_unit Eq.symm <| ite_unit Eq.symm <|
    ite_unit Eq.symm <| ite_unit Eq.symm <| ite_unit Eq.symm <|
      ite_unit (fun _ => unicodeEscape_unit unit) (plainUnit_unit unit)

theorem quoteString_value (text : Units) : (quoteString text).value = text := by
  have points : ∀ point : CodePoint, (quotePoint point).map Piece.unit = point.units := by
    intro point
    cases point with
    | pair high low => simp [quotePoint, plainUnit_unit, CodePoint.units]
    | single unit => simp [quotePoint, quoteUnit_unit, CodePoint.units]
  rw [quoteString, StringSyntax.value, List.map_flatMap]
  simp only [points]
  exact codePoints_units text

/-- The values of an array in a row, without blanks. -/
def chainItems : JsonSyntax → List JsonSyntax → ItemsSyntax
  | only, [] => .last [] only []
  | first, second :: rest => .more [] first [] (chainItems second rest)

/-- An array of these values, without blanks. -/
def arraySyntax : List JsonSyntax → JsonSyntax
  | [] => .emptyArray []
  | first :: rest => .array (chainItems first rest)

/-- The members of an object in a row, without blanks. -/
def chainMembers : Units × JsonSyntax → List (Units × JsonSyntax) → MembersSyntax
  | only, [] => .last [] (quoteString only.1) [] [] only.2 []
  | first, second :: rest =>
    .more [] (quoteString first.1) [] [] first.2 [] (chainMembers second rest)

/-- An object of these members, without blanks. -/
def objectSyntax : List (Units × JsonSyntax) → JsonSyntax
  | [] => .emptyObject []
  | first :: rest => .object (chainMembers first rest)

theorem arraySyntax_text (items : List JsonSyntax) :
    (arraySyntax items).text = 91 :: (joinComma (items.map JsonSyntax.text) ++ [93]) := by
  have chain : ∀ first rest, (chainItems first rest).text
      = joinComma ((first :: rest).map JsonSyntax.text) ++ [93] := by
    intro first rest
    induction rest generalizing first with
    | nil => simp [chainItems, ItemsSyntax.text, Blank.text, joinComma]
    | cons second rest ih => simp [chainItems, ItemsSyntax.text, Blank.text, joinComma, ih]
  cases items with
  | nil => simp [arraySyntax, JsonSyntax.text, Blank.text, joinComma]
  | cons first rest => rw [arraySyntax, JsonSyntax.text, chain]

theorem objectSyntax_text (members : List (Units × JsonSyntax)) :
    (objectSyntax members).text
      = 123 :: (joinComma (members.map fun member => entryText member.1 member.2.text) ++ [125]) := by
  have chain : ∀ first rest, (chainMembers first rest).text
      = joinComma ((first :: rest).map fun member => entryText member.1 member.2.text)
        ++ [125] := by
    intro first rest
    induction rest generalizing first with
    | nil => simp [chainMembers, MembersSyntax.text, Blank.text, joinComma, entryText, stringText]
    | cons second rest ih =>
      simp [chainMembers, MembersSyntax.text, Blank.text, joinComma, ih, entryText, stringText]
  cases members with
  | nil => simp [objectSyntax, JsonSyntax.text, Blank.text, joinComma]
  | cons first rest => rw [objectSyntax, JsonSyntax.text, chain]

theorem arraySyntax_value (items : List JsonSyntax) :
    (arraySyntax items).value = .array (items.map JsonSyntax.value) := by
  have chain : ∀ first rest, (chainItems first rest).values
      = (first :: rest).map JsonSyntax.value := by
    intro first rest
    induction rest generalizing first with
    | nil => simp [chainItems, ItemsSyntax.values]
    | cons second rest ih => simp [chainItems, ItemsSyntax.values, ih]
  cases items with
  | nil => simp [arraySyntax, JsonSyntax.value]
  | cons first rest => rw [arraySyntax, JsonSyntax.value, chain]

theorem objectSyntax_value (members : List (Units × JsonSyntax)) :
    (objectSyntax members).value
      = .object (ownEntries (members.map fun member => (member.1, member.2.value))) := by
  have chain : ∀ first rest, (chainMembers first rest).entries
      = (first :: rest).map fun member => (member.1, member.2.value) := by
    intro first rest
    induction rest generalizing first with
    | nil => simp [chainMembers, MembersSyntax.entries, quoteString_value]
    | cons second rest ih => simp [chainMembers, MembersSyntax.entries, quoteString_value, ih]
  cases members with
  | nil => simp [objectSyntax, JsonSyntax.value, ownEntries]
  | cons first rest => rw [objectSyntax, JsonSyntax.value, chain]

variable {items : List JsonSyntax} {levels : Nat}

theorem arraySyntax_depth (shallow : ∀ item ∈ items, item.depth < levels) :
    (arraySyntax items).depth ≤ levels := by
  have chain : ∀ first rest, (∀ item ∈ first :: rest, item.depth < levels) →
      (chainItems first rest).depth < levels := by
    intro first rest within
    induction rest generalizing first with
    | nil => exact within first (by simp)
    | cons second rest ih =>
      rw [chainItems, ItemsSyntax.depth, Nat.max_lt]
      exact ⟨within first (by simp), ih second fun item member => within item (by simp [member])⟩
  cases items with
  | nil => exact Nat.zero_le _
  | cons first rest => exact chain first rest shallow

variable {members : List (Units × JsonSyntax)}

theorem objectSyntax_depth (shallow : ∀ member ∈ members, member.2.depth < levels) :
    (objectSyntax members).depth ≤ levels := by
  have chain : ∀ first rest, (∀ member ∈ first :: rest, member.2.depth < levels) →
      (chainMembers first rest).depth < levels := by
    intro first rest within
    induction rest generalizing first with
    | nil => exact within first (by simp)
    | cons second rest ih =>
      rw [chainMembers, MembersSyntax.depth, Nat.max_lt]
      exact ⟨within first (by simp), ih second fun member later => within member (by simp [later])⟩
  cases members with
  | nil => exact Nat.zero_le _
  | cons first rest => exact chain first rest shallow

theorem arraySyntax_distinct (distinct : ∀ item ∈ items, item.KeysDistinct) :
    (arraySyntax items).KeysDistinct := by
  have chain : ∀ first rest, (∀ item ∈ first :: rest, item.KeysDistinct) →
      (chainItems first rest).KeysDistinct := by
    intro first rest within
    induction rest generalizing first with
    | nil => exact within first (by simp)
    | cons second rest ih =>
      exact ⟨within first (by simp), ih second fun item member => within item (by simp [member])⟩
  cases items with
  | nil => trivial
  | cons first rest => exact chain first rest distinct

theorem objectSyntax_distinct (keys : (members.map Prod.fst).Nodup)
    (distinct : ∀ member ∈ members, member.2.KeysDistinct) :
    (objectSyntax members).KeysDistinct := by
  have named : ∀ first rest, (chainMembers first rest).keys = (first :: rest).map Prod.fst := by
    intro first rest
    induction rest generalizing first with
    | nil => simp [chainMembers, MembersSyntax.keys, quoteString_value]
    | cons second rest ih => simp [chainMembers, MembersSyntax.keys, quoteString_value, ih]
  have chain : ∀ first rest, (∀ member ∈ first :: rest, member.2.KeysDistinct) →
      (chainMembers first rest).KeysDistinct := by
    intro first rest within
    induction rest generalizing first with
    | nil => exact within first (by simp)
    | cons second rest ih =>
      exact ⟨within first (by simp), ih second fun member later => within member (by simp [later])⟩
  cases members with
  | nil => trivial
  | cons first rest =>
    rw [objectSyntax, JsonSyntax.KeysDistinct, named]
    exact ⟨keys, chain first rest distinct⟩

mutual

/-- The text of the grammar that a value of JSON is rendered as. -/
def syntaxOf : JsValue → JsonSyntax
  | .null => .null
  | .boolean value => .boolean value
  | .number (.finite negative magnitude) => .number (magnitude.numeral negative)
  -- Other numbers are refused before anything is rendered.
  | .number (.infinite _) => .null
  | .string text => .string (quoteString text)
  | .array items => arraySyntax (itemsSyntax items)
  | .object entries => objectSyntax (sortEntries (entriesSyntax entries))

/-- The texts that an array's values are rendered as. -/
def itemsSyntax : List JsValue → List JsonSyntax
  | [] => []
  | item :: rest => syntaxOf item :: itemsSyntax rest

/-- The texts that an object's values are rendered as, with their keys. -/
def entriesSyntax : List (Units × JsValue) → List (Units × JsonSyntax)
  | [] => []
  | (key, value) :: rest => (key, syntaxOf value) :: entriesSyntax rest

end

theorem syntaxOf_array (items : List JsValue) :
    syntaxOf (.array items) = arraySyntax (items.map syntaxOf) := by
  have values : itemsSyntax items = items.map syntaxOf := by
    induction items with
    | nil => rfl
    | cons item rest ih => exact congrArg (syntaxOf item :: ·) ih
  exact congrArg arraySyntax values

theorem syntaxOf_object (entries : List (Units × JsValue)) : syntaxOf (.object entries) =
    objectSyntax (sortEntries (entries.map fun entry => (entry.1, syntaxOf entry.2))) := by
  have values : entriesSyntax entries = entries.map fun entry => (entry.1, syntaxOf entry.2) := by
    induction entries with
    | nil => rfl
    | cons entry rest ih => exact congrArg ((entry.1, syntaxOf entry.2) :: ·) ih
  exact congrArg (fun entries => objectSyntax (sortEntries entries)) values

theorem ownEntries_perm {members : List (Units × JsValue)}
    (distinct : (members.map Prod.fst).Nodup) : (ownEntries members).Perm members := by
  have assigned : ∀ (rest front : List (Units × JsValue)), ((front ++ rest).map Prod.fst).Nodup →
      rest.foldl (fun entries member => OrderedMap.set entries member.1 member.2) front
        = front ++ rest := by
    intro rest
    induction rest with
    | nil => simp
    | cons member rest ih =>
      intro front apart
      have fresh : member.1 ∉ OrderedMap.keys front := by
        intro repeated
        rw [List.map_append, List.map_cons] at apart
        exact (List.disjoint_of_nodup_append apart) repeated List.mem_cons_self
      rw [List.foldl_cons, OrderedMap.set_of_not_mem member.2 fresh, ih]
      · simp
      · simpa using apart
  have whole := assigned members [] (by simpa using distinct)
  simp only [List.nil_append] at whole
  unfold ownEntries
  rw [whole]
  dsimp only
  have others : (fun entry : Units × JsValue => (arrayIndex entry.1).isNone)
      = fun entry => !(arrayIndex entry.1).isSome := by
    funext entry
    exact (Option.not_isSome _).symm
  rw [others]
  exact ((List.perm_insertionSort _ _).append_right _).trans
    (List.filter_append_perm (fun entry : Units × JsValue => (arrayIndex entry.1).isSome) members)

variable {value : JsValue}

/-- The text of a value stands for it, but for the order of keys and the sign of zeros. -/
theorem syntaxOf_value (json : value.IsJson) :
    (syntaxOf value).value.Same value := by
  induction value using JsValue.inductionOn with
  | null => rfl
  | boolean value => rfl
  | number value =>
    cases value with
    | finite negative magnitude =>
      simp only [syntaxOf, JsonSyntax.value, JsValue.Same, JsValue.normal,
        Magnitude.numeral_value]
      cases negative <;> simp
    | infinite negative => exact absurd json id
  | string text => simp only [syntaxOf, JsonSyntax.value, quoteString_value, JsValue.Same]
  | array items ih =>
    rw [JsValue.isJson_array] at json
    rw [syntaxOf_array, arraySyntax_value, JsValue.Same, JsValue.normal_array, JsValue.normal_array]
    congr 1
    simp only [List.map_map]
    exact List.map_congr_left fun item member => ih item member (json item member)
  | object entries ih =>
    rw [JsValue.isJson_object] at json
    obtain ⟨distinct, json⟩ := json
    rw [syntaxOf_object, objectSyntax_value, JsValue.Same, JsValue.normal_object, JsValue.normal_object]
    congr 1
    -- The members are assigned in key order, and their values stand for those of the entries.
    rw [sortEntries_map JsonSyntax.value, List.map_map]
    have keys : (entries.map fun entry => (entry.1, (syntaxOf entry.2).value)).map Prod.fst
        = entries.map Prod.fst := by
      rw [List.map_map]
      rfl
    have sorted : ((sortEntries (entries.map fun entry =>
        (entry.1, (syntaxOf entry.2).value))).map Prod.fst).Nodup := by
      rw [(sortEntries_keys _).nodup_iff, keys]
      exact distinct
    have perm := (ownEntries_perm sorted).trans (sortEntries_perm _)
    have values : (entries.map fun entry => (entry.1, (syntaxOf entry.2).value)).map
        (fun entry => (entry.1, entry.2.normal)) = entries.map fun entry => (entry.1, entry.2.normal) := by
      rw [List.map_map]
      apply List.map_congr_left
      intro entry member
      exact congrArg (Prod.mk entry.1) (ih entry member (json entry member))
    have normal := perm.map fun entry => (entry.1, entry.2.normal)
    rw [values] at normal
    apply sortEntries_congr normal
    rw [(normal.map Prod.fst).nodup_iff, List.map_map]
    exact distinct

theorem syntaxOf_depth (shallow : value.depth ≤ levels) :
    (syntaxOf value).depth ≤ levels := by
  induction value using JsValue.inductionOn generalizing levels with
  | null => exact Nat.zero_le _
  | boolean value => exact Nat.zero_le _
  | number value => cases value <;> exact Nat.zero_le _
  | string text => exact Nat.zero_le _
  | array items ih =>
    rw [JsValue.depth_array] at shallow
    rw [syntaxOf_array]
    apply arraySyntax_depth
    intro item member
    obtain ⟨value, inside, rfl⟩ := List.mem_map.mp member
    have below := shallow value inside
    exact Nat.lt_of_le_of_lt (ih value inside (Nat.le_sub_one_of_lt below)) (by omega)
  | object entries ih =>
    rw [JsValue.depth_object] at shallow
    rw [syntaxOf_object]
    apply objectSyntax_depth
    intro entry member
    obtain ⟨inner, inside, rfl⟩ := List.mem_map.mp ((sortEntries_perm _).mem_iff.mp member)
    have below := shallow inner inside
    exact Nat.lt_of_le_of_lt (ih inner inside (Nat.le_sub_one_of_lt below)) (by omega)

theorem syntaxOf_distinct (json : value.IsJson) :
    (syntaxOf value).KeysDistinct := by
  induction value using JsValue.inductionOn with
  | null => trivial
  | boolean value => trivial
  | number value => cases value <;> trivial
  | string text => trivial
  | array items ih =>
    rw [JsValue.isJson_array] at json
    rw [syntaxOf_array]
    apply arraySyntax_distinct
    intro item member
    obtain ⟨value, inside, rfl⟩ := List.mem_map.mp member
    exact ih value inside (json value inside)
  | object entries ih =>
    rw [JsValue.isJson_object] at json
    rw [syntaxOf_object]
    apply objectSyntax_distinct
    · rw [(sortEntries_keys _).nodup_iff, List.map_map]
      exact json.1
    · intro entry member
      obtain ⟨inner, inside, rfl⟩ := List.mem_map.mp ((sortEntries_perm _).mem_iff.mp member)
      exact ih inner inside (json.2 inner inside)

theorem mapM_ok {α : Type} (render : α → Except PublicContractError Units) (text : α → Units)
    {parts : List α} (renders : ∀ part ∈ parts, render part = .ok (text part)) :
    parts.mapM render = .ok (parts.map text) := by
  induction parts with
  | nil => rfl
  | cons part rest ih =>
    rw [List.mapM_cons, renders part (by simp), ih fun other member => renders other (by simp [member])]
    rfl

/-- A value of JSON within the depth limit is rendered as its text. -/
theorem renderJson_eq (json : value.IsJson) {field : Units} {depth : Nat}
    (shallow : value.depth + depth ≤ 100) :
    renderJson value field depth = .ok (syntaxOf value).text := by
  induction value using JsValue.inductionOn generalizing field depth with
  | null =>
    rw [renderJson, if_neg (by omega)]
    rfl
  | boolean value =>
    cases value <;> rw [renderJson, if_neg (by omega)] <;> rfl
  | number value =>
    cases value with
    | finite negative magnitude =>
      rw [renderJson, if_neg (by omega), syntaxOf, JsonSyntax.text, Magnitude.numeral,
        JsonNumber.numeral_text]
      rfl
    | infinite negative => exact absurd json id
  | string text =>
    rw [renderJson, if_neg (by omega)]
    rfl
  | array items ih =>
    rw [JsValue.isJson_array] at json
    have within := (JsValue.depth_array items _).mp (Nat.le_refl _)
    have parts : ∀ (rest : List JsValue) (index : Nat), (∀ item ∈ rest, item ∈ items) →
        renderItems rest field index (depth + 1) = .ok (rest.map fun item => (syntaxOf item).text) := by
      intro rest
      induction rest with
      | nil => intros; rfl
      | cons item rest tail =>
        intro index inside
        have member := inside item (by simp)
        have below := within item member
        rw [renderItems, ih item member (json item member) (by omega),
          tail (index + 1) fun other later => inside other (by simp [later])]
        rfl
    rw [renderJson, if_neg (by omega), syntaxOf_array, arraySyntax_text, List.map_map]
    simp only [parts items 0 fun _ member => member]
    rfl
  | object entries ih =>
    rw [JsValue.isJson_object] at json
    have within := (JsValue.depth_object entries _).mp (Nat.le_refl _)
    have parts : ∀ rest : List (Units × JsValue), (∀ entry ∈ rest, entry ∈ entries) →
        renderEntries rest field (depth + 1)
          = rest.map fun entry => (entry.1, .ok (syntaxOf entry.2).text) := by
      intro rest
      induction rest with
      | nil => intros; rfl
      | cons entry rest tail =>
        intro inside
        have member := inside entry (by simp)
        have below := within entry member
        rw [renderEntries, ih entry member (json.2 entry member) (by omega),
          tail fun other later => inside other (by simp [later])]
        rfl
    rw [renderJson, if_neg (by omega), syntaxOf_object, objectSyntax_text]
    simp only [parts entries fun _ member => member]
    have rendered : sortEntries (entries.map fun entry =>
        (entry.1, (.ok (syntaxOf entry.2).text : Except PublicContractError Units)))
        = (sortEntries (entries.map fun entry => (entry.1, syntaxOf entry.2))).map
          fun entry => (entry.1, .ok entry.2.text) := by
      rw [sortEntries_map (fun text : JsonSyntax => (.ok text.text : Except PublicContractError Units)),
        List.map_map]
      rfl
    rw [rendered, mapM_ok _ fun entry => match entry.2 with
      | .ok text => entryText entry.1 text
      | .error _ => []]
    · rw [List.map_map]
      rfl
    · intro entry member
      obtain ⟨inner, -, rfl⟩ := List.mem_map.mp member
      rfl

theorem syntaxOf_objectText (entries : List (Units × JsValue)) :
    (syntaxOf (.object entries)).text
      = 123 :: (joinComma ((sortEntries (entries.map fun entry =>
          (entry.1, (syntaxOf entry.2).text))).map fun entry => entryText entry.1 entry.2) ++ [125]) := by
  have values : sortEntries (entries.map fun entry => (entry.1, (syntaxOf entry.2).text))
      = (sortEntries (entries.map fun entry => (entry.1, syntaxOf entry.2))).map
        fun entry => (entry.1, entry.2.text) := by
    rw [sortEntries_map JsonSyntax.text, List.map_map]
    rfl
  rw [syntaxOf_object, objectSyntax_text, values, List.map_map]
  rfl

theorem syntaxOf_normal (value : JsValue) : (syntaxOf value.normal).text = (syntaxOf value).text := by
  induction value using JsValue.inductionOn with
  | null => rfl
  | boolean value => rfl
  | number value =>
    cases value with
    | finite negative magnitude =>
      by_cases zero : magnitude.units = 0
      · have none := magnitude.decimal_pos.1 zero
        cases negative <;>
          simp [JsValue.normal, syntaxOf, JsonSyntax.text, Magnitude.numeral, none, zero]
      · simp [JsValue.normal, syntaxOf, zero]
    | infinite negative => rfl
  | string text => rfl
  | array items ih =>
    rw [JsValue.normal_array, syntaxOf_array, syntaxOf_array, arraySyntax_text, arraySyntax_text,
      List.map_map, List.map_map, List.map_map]
    congr 3
    exact List.map_congr_left ih
  | object entries ih =>
    have values : (entries.map fun entry => (entry.1, entry.2.normal)).map
        (fun entry => (entry.1, (syntaxOf entry.2).text))
        = entries.map fun entry => (entry.1, (syntaxOf entry.2).text) := by
      rw [List.map_map]
      exact List.map_congr_left fun entry member => congrArg (Prod.mk entry.1) (ih entry member)
    rw [JsValue.normal_object, syntaxOf_objectText, syntaxOf_objectText,
      sortEntries_map fun value => (syntaxOf value).text, values, sortEntries_sort]

theorem canonicalJson_eq (json : value.IsJson) (shallow : value.depth ≤ 100) :
    canonicalJson value = .ok (syntaxOf value).text :=
  renderJson_eq json shallow

theorem canonicalJson_congr {left right : JsValue} (leftJson : left.IsJson)
    (rightJson : right.IsJson) (leftShallow : left.depth ≤ 100) (rightShallow : right.depth ≤ 100)
    (same : left.Same right) : canonicalJson left = canonicalJson right := by
  rw [canonicalJson_eq leftJson leftShallow, canonicalJson_eq rightJson rightShallow,
    ← syntaxOf_normal left, ← syntaxOf_normal right, same]

theorem parseStrictJson_canonical (json : value.IsJson) {maximumDepth : Nat}
    (shallow : value.depth ≤ maximumDepth) (field : Units) {maximumBytes : Nat}
    (small : utf8Length (syntaxOf value).text ≤ maximumBytes) :
    parseStrictJson field maximumDepth (syntaxOf value).text maximumBytes
      = .ok (syntaxOf value).value := by
  rw [parseStrictJson_iff]
  refine ⟨small, ⟨[], syntaxOf value, []⟩, ?_, syntaxOf_depth shallow, syntaxOf_distinct json, rfl⟩
  simp [JsonText.text, Blank.text]

theorem canonicalJson_same {left right : JsValue} (leftJson : left.IsJson)
    (rightJson : right.IsJson) (leftShallow : left.depth ≤ 100) (rightShallow : right.depth ≤ 100)
    (texts : canonicalJson left = canonicalJson right) : left.Same right := by
  rw [canonicalJson_eq leftJson leftShallow, canonicalJson_eq rightJson rightShallow] at texts
  -- Both are what the one text reads back as.
  have leftRead := parseStrictJson_canonical leftJson leftShallow [] (Nat.le_refl _)
  have rightRead := parseStrictJson_canonical rightJson rightShallow [] (Nat.le_refl _)
  rw [Except.ok.inj texts, rightRead] at leftRead
  have one : (syntaxOf left).value = (syntaxOf right).value := (Except.ok.inj leftRead).symm
  have leftSame := syntaxOf_value leftJson
  have rightSame := syntaxOf_value rightJson
  rw [JsValue.Same, one] at leftSame
  exact leftSame.symm.trans rightSame

theorem isJson_normal (value : JsValue) : value.normal.IsJson ↔ value.IsJson := by
  induction value using JsValue.inductionOn with
  | null => rfl
  | boolean value => rfl
  | number value => cases value <;> simp [JsValue.normal, JsValue.IsJson]
  | string text => rfl
  | array items ih =>
    rw [JsValue.normal_array, JsValue.isJson_array, JsValue.isJson_array,
      List.forall_mem_map]
    exact forall₂_congr ih
  | object entries ih =>
    rw [JsValue.normal_object, JsValue.isJson_object, JsValue.isJson_object,
      (sortEntries_keys _).nodup_iff, List.map_map]
    apply and_congr Iff.rfl
    simp only [(sortEntries_perm _).mem_iff, List.forall_mem_map]
    exact forall₂_congr ih

theorem depth_normal (value : JsValue) (levels : Nat) :
    value.normal.depth ≤ levels ↔ value.depth ≤ levels := by
  induction value using JsValue.inductionOn generalizing levels with
  | null => rfl
  | boolean value => rfl
  | number value => cases value <;> rfl
  | string text => rfl
  | array items ih =>
    rw [JsValue.normal_array, JsValue.depth_array, JsValue.depth_array,
      List.forall_mem_map]
    apply forall₂_congr
    intro item member
    cases levels with
    | zero => simp
    | succ levels => rw [Nat.lt_succ_iff, Nat.lt_succ_iff, ih item member]
  | object entries ih =>
    rw [JsValue.normal_object, JsValue.depth_object, JsValue.depth_object]
    simp only [(sortEntries_perm _).mem_iff, List.forall_mem_map]
    apply forall₂_congr
    intro entry member
    cases levels with
    | zero => simp
    | succ levels => rw [Nat.lt_succ_iff, Nat.lt_succ_iff, ih entry member]

end StrictJson

theorem JsValue.Same.isJson {left right : JsValue} (same : left.Same right) (json : right.IsJson) :
    left.IsJson := by
  rw [← StrictJson.isJson_normal, same, StrictJson.isJson_normal]
  exact json

theorem JsValue.Same.depth_le {left right : JsValue} (same : left.Same right) {levels : Nat}
    (shallow : right.depth ≤ levels) : left.depth ≤ levels := by
  rw [← StrictJson.depth_normal, same, StrictJson.depth_normal]
  exact shallow

end Klura
