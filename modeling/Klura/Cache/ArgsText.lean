import Klura.Cache.Capability

/-! What the hashed text of arguments tells apart: everything but what nested objects hold. -/

namespace Klura

open StrictJson

namespace JsValue

mutual

/-- Whether a value is no object and holds none. -/
def isFlat : JsValue → Bool
  | .object _ => false
  | .array items => itemsFlat items
  | _ => true

/-- Whether no value of an array is or holds an object. -/
def itemsFlat : List JsValue → Bool
  | [] => true
  | item :: rest => item.isFlat && itemsFlat rest

end

theorem isFlat_array (items : List JsValue) :
    (array items).isFlat = true ↔ ∀ item ∈ items, item.isFlat = true := by
  rw [isFlat]
  induction items with
  | nil => simp [itemsFlat]
  | cons item rest ih => simp [itemsFlat, ih]

end JsValue

theorem OrderedMap.get?_perm {ν : Type} {left right : OrderedMap Units ν} (same : left.Perm right)
    (distinct : left.keys.Nodup) (key : Units) :
    OrderedMap.get? left key = OrderedMap.get? right key := by
  have distinct' : right.keys.Nodup := (same.map Prod.fst).nodup_iff.mp distinct
  cases found : OrderedMap.get? left key with
  | some value =>
    exact (OrderedMap.get?_of_mem distinct' (same.mem_iff.mp (OrderedMap.mem_of_get? found))).symm
  | none =>
    rw [OrderedMap.get?_eq_none_iff] at found
    symm
    rw [OrderedMap.get?_eq_none_iff]
    exact fun member => found ((same.map Prod.fst).mem_iff.mpr member)

theorem OrderedMap.get?_map {ν μ : Type} (change : ν → μ) (map : OrderedMap Units ν) (key : Units) :
    OrderedMap.get? (map.map fun entry => (entry.1, change entry.2)) key
      = (OrderedMap.get? map key).map change := by
  induction map with
  | nil => rfl
  | cons entry rest ih =>
    by_cases same : entry.1 = key
    · simp [OrderedMap.get?, same]
    · simp [OrderedMap.get?, same, ih]

variable (propertyList : List Units)

theorem listedItems_eq (items : List JsValue) :
    listedItems propertyList items = items.map (listedSyntax propertyList) := by
  induction items with
  | nil => rfl
  | cons item rest ih => rw [listedItems, ih, List.map_cons]

theorem listedEntries_eq (entries : List (Units × JsValue)) :
    listedEntries propertyList entries
      = entries.map fun entry => (entry.1, listedSyntax propertyList entry.2) := by
  induction entries with
  | nil => rfl
  | cons entry rest ih => rw [listedEntries, ih, List.map_cons]

variable {value : JsValue}

/-- A flat value is written as one that is the same, and that is flat too. -/
theorem listedSyntax_flat (json : value.IsJson) (flat : value.isFlat = true) :
    (listedSyntax propertyList value).value.Same value
      ∧ (listedSyntax propertyList value).value.isFlat = true := by
  induction value using JsValue.inductionOn with
  | null => exact ⟨rfl, rfl⟩
  | boolean value => exact ⟨rfl, rfl⟩
  | number value =>
    cases value with
    | finite negative magnitude =>
      refine ⟨?_, rfl⟩
      simp only [listedSyntax, JsonSyntax.value, JsValue.Same, JsValue.normal,
        Magnitude.numeral_value]
      cases negative <;> simp
    | infinite negative => exact absurd json id
  | string text =>
    refine ⟨?_, rfl⟩
    simp only [listedSyntax, JsonSyntax.value, quoteString_value, JsValue.Same]
  | array items ih =>
    rw [JsValue.isJson_array] at json
    rw [JsValue.isFlat_array] at flat
    rw [listedSyntax, listedItems_eq, arraySyntax_value, JsValue.isFlat_array, JsValue.Same,
      JsValue.normal_array, JsValue.normal_array]
    constructor
    · congr 1
      simp only [List.map_map]
      exact List.map_congr_left fun item member =>
        (ih item member (json item member) (flat item member)).1
    · intro written member
      obtain ⟨text, inside, rfl⟩ := List.mem_map.mp member
      obtain ⟨item, given, rfl⟩ := List.mem_map.mp inside
      exact (ih item given (json item given) (flat item given)).2
  | object entries => cases flat

theorem listedSyntax_reflects (flat : (listedSyntax propertyList value).value.isFlat = true) :
    value.isFlat = true := by
  induction value using JsValue.inductionOn with
  | null => rfl
  | boolean value => rfl
  | number value => rfl
  | string text => rfl
  | array items ih =>
    rw [listedSyntax, listedItems_eq, arraySyntax_value, JsValue.isFlat_array] at flat
    rw [JsValue.isFlat_array]
    intro item member
    exact ih item member (flat _ (List.mem_map_of_mem (List.mem_map_of_mem member)))
  | object entries =>
    rw [listedSyntax, objectSyntax_value] at flat
    cases flat

/-- The text of a value is well paired. -/
theorem listedSyntax_wellPaired (value : JsValue) :
    WellPaired (listedSyntax propertyList value).text := by
  induction value using JsValue.inductionOn with
  | null => exact syntaxOf_wellPaired .null
  | boolean value => exact syntaxOf_wellPaired (.boolean value)
  | number value =>
    cases value with
    | finite negative magnitude => exact syntaxOf_wellPaired (.number (.finite negative magnitude))
    | infinite negative => exact syntaxOf_wellPaired (.number (.infinite negative))
  | string text => exact syntaxOf_wellPaired (.string text)
  | array items ih =>
    rw [listedSyntax, listedItems_eq, arraySyntax_text]
    refine (bracketed_bytes (by decide) (by decide) (joinComma_bytes ?_).1).1
    simpa using ih
  | object entries ih =>
    rw [listedSyntax, objectSyntax_text]
    refine (bracketed_bytes (by decide) (by decide) (joinComma_bytes ?_).1).1
    intro text member
    obtain ⟨entry, listed, rfl⟩ := List.mem_map.mp member
    apply (entryText_bytes _ _).1
    obtain ⟨key, -, written⟩ := List.mem_filterMap.mp listed
    unfold listedMember at written
    split at written
    · next value found =>
      cases written
      rw [listedEntries_eq] at found
      obtain ⟨source, given, same⟩ := List.mem_map.mp (OrderedMap.mem_of_get? found)
      cases same
      exact ih source given
    · split at written
      · cases written
        have small : ∀ unit ∈ prototypeSyntax.text, unit.toNat < 0xD800 :=
          forall_of_all (by decide +kernel)
        exact .of_small small
      · cases written

theorem listedMembers_perm {members : List (Units × JsonSyntax)}
    (listed : propertyList.Perm (members.map Prod.fst)) (distinct : (members.map Prod.fst).Nodup) :
    (listedMembers propertyList members).Perm members := by
  have whole : ∀ rest : List (Units × JsonSyntax), (∀ member ∈ rest, member ∈ members) →
      (rest.map Prod.fst).filterMap (listedMember members) = rest := by
    intro rest within
    induction rest with
    | nil => rfl
    | cons member rest ih =>
      have own : OrderedMap.get? members member.1 = some member.2 :=
        OrderedMap.get?_of_mem distinct (within member (by simp))
      rw [List.map_cons, List.filterMap_cons, listedMember, own,
        ih fun other later => within other (by simp [later])]
  have sorted := listed.filterMap (listedMember members)
  rw [whole members fun _ member => member] at sorted
  exact sorted

theorem JsonSyntax.value_of_text {left right : JsonSyntax} (texts : left.text = right.text) :
    left.value = right.value := by
  have leftRead := (jsonParse_iff left.text left.value).mpr
    ⟨⟨[], left, []⟩, by simp [JsonText.text, Blank.text], rfl⟩
  have rightRead := (jsonParse_iff right.text right.value).mpr
    ⟨⟨[], right, []⟩, by simp [JsonText.text, Blank.text], rfl⟩
  rw [texts, rightRead] at leftRead
  exact (Option.some.inj leftRead).symm

variable (locale : LocaleCompare)

theorem sortedKeys_perm (args : List (Units × JsValue)) :
    (sortedKeys locale args).Perm (args.map Prod.fst) :=
  List.perm_insertionSort _ _

variable {args : List (Units × JsValue)}

theorem argsText_value (json : (JsValue.object args).IsJson) :
    ∃ members, (listedSyntax (sortedKeys locale args) (.object args)).value = .object members ∧
      members.Perm (args.map fun entry =>
        (entry.1, (listedSyntax (sortedKeys locale args) entry.2).value)) := by
  rw [JsValue.isJson_object] at json
  have keys : (args.map fun entry => (entry.1, listedSyntax (sortedKeys locale args) entry.2)).map
      Prod.fst = args.map Prod.fst := by simp
  have named : (sortedKeys locale args).Perm ((args.map fun entry =>
      (entry.1, listedSyntax (sortedKeys locale args) entry.2)).map Prod.fst) := by
    rw [keys]
    exact sortedKeys_perm locale args
  have listed := listedMembers_perm (sortedKeys locale args) named (by rw [keys]; exact json.1)
  have values := listed.map fun member => (member.1, member.2.value)
  refine ⟨_, by rw [listedSyntax, listedEntries_eq, objectSyntax_value], ?_⟩
  have distinct : (((listedMembers (sortedKeys locale args)
      (args.map fun entry => (entry.1, listedSyntax (sortedKeys locale args) entry.2))).map
        fun member => (member.1, member.2.value)).map Prod.fst).Nodup := by
    rw [(values.map Prod.fst).nodup_iff, List.map_map, List.map_map]
    exact json.1
  refine (ownEntries_perm distinct).trans (values.trans ?_)
  rw [List.map_map]
  rfl

variable {others : List (Units × JsValue)}

/-- Arguments whose values are flat have the text of no other arguments. -/
theorem argsText_inj (json : (JsValue.object args).IsJson)
    (othersJson : (JsValue.object others).IsJson) (flat : ∀ entry ∈ args, entry.2.isFlat = true)
    (texts : argsText locale others = argsText locale args) :
    (JsValue.object others).Same (.object args) := by
  obtain ⟨members, stands, perm⟩ := argsText_value locale json
  obtain ⟨members', stands', perm'⟩ := argsText_value locale othersJson
  have one := JsonSyntax.value_of_text texts
  rw [stands, stands'] at one
  cases one
  have both := perm'.symm.trans perm
  rw [JsValue.isJson_object] at json othersJson
  -- What the others hold is written as something flat, so it is flat and written as itself.
  have flat' : ∀ entry ∈ others, entry.2.isFlat = true := by
    intro entry member
    obtain ⟨source, given, same⟩ := List.mem_map.mp (both.mem_iff.mp (List.mem_map_of_mem member))
    have written := (listedSyntax_flat (sortedKeys locale args) (json.2 source given)
      (flat source given)).2
    have value := congrArg Prod.snd same
    simp only at value
    rw [value] at written
    exact listedSyntax_reflects _ written
  have normals := both.map fun entry => (entry.1, entry.2.normal)
  have same : ∀ (held : List (Units × JsValue)) (list : List Units),
      (∀ entry ∈ held, entry.2.IsJson) → (∀ entry ∈ held, entry.2.isFlat = true) →
      (held.map fun entry => (entry.1, (listedSyntax list entry.2).value)).map
        (fun entry => (entry.1, entry.2.normal)) = held.map fun entry => (entry.1, entry.2.normal) := by
    intro held list heldJson heldFlat
    rw [List.map_map]
    apply List.map_congr_left
    intro entry member
    exact congrArg (Prod.mk entry.1)
      (listedSyntax_flat list (heldJson entry member) (heldFlat entry member)).1
  rw [same others _ othersJson.2 flat', same args _ json.2 flat] at normals
  rw [JsValue.Same, JsValue.normal_object, JsValue.normal_object, sortEntries_congr normals (by rw [List.map_map]; exact othersJson.1)]

/-- A value is written as its normal form is: the list decides the order of members. -/
theorem listedSyntax_normal (json : value.IsJson) :
    (listedSyntax propertyList value.normal).text = (listedSyntax propertyList value).text := by
  induction value using JsValue.inductionOn with
  | null => rfl
  | boolean value => rfl
  | number value =>
    have written : ∀ number : Double, listedSyntax propertyList (.number number)
        = syntaxOf (.number number) := by
      intro number
      cases number <;> rfl
    cases value with
    | finite negative magnitude =>
      have normal := syntaxOf_normal (.number (.finite negative magnitude))
      rw [JsValue.normal] at normal ⊢
      rw [written, written, normal]
    | infinite negative => rfl
  | string text => rfl
  | array items ih =>
    rw [JsValue.isJson_array] at json
    rw [JsValue.normal_array, listedSyntax, listedSyntax, arraySyntax_text, arraySyntax_text,
      listedItems_eq, listedItems_eq, List.map_map, List.map_map,
      List.map_map]
    congr 3
    exact List.map_congr_left fun item member => ih item member (json item member)
  | object entries ih =>
    rw [JsValue.isJson_object] at json
    rw [JsValue.normal_object, listedSyntax, listedSyntax, objectSyntax_text, objectSyntax_text,
      listedEntries_eq, listedEntries_eq]
    congr 3
    unfold listedMembers
    rw [List.map_filterMap, List.map_filterMap]
    apply List.filterMap_congr
    intro key _
    -- The order of distinct keys does not matter to the entry of one.
    have sorted : (StrictJson.sortEntries (entries.map fun entry => (entry.1, entry.2.normal))).Perm
        (entries.map fun entry => (entry.1, entry.2.normal)) := sortEntries_perm _
    have distinct : OrderedMap.keys (StrictJson.sortEntries (entries.map fun entry =>
        (entry.1, entry.2.normal))) |>.Nodup := by
      unfold OrderedMap.keys
      rw [(sorted.map Prod.fst).nodup_iff, List.map_map]
      exact json.1
    rw [listedMember, listedMember, OrderedMap.get?_map, OrderedMap.get?_perm sorted distinct, OrderedMap.get?_map,
      OrderedMap.get?_map]
    cases found : OrderedMap.get? entries key with
    | none => rfl
    | some value =>
      have member := OrderedMap.mem_of_get? found
      simp only [Option.map_some, ih (key, value) member (json.2 _ member)]

/-- Whether a locale tells any two different keys of the arguments apart. -/
def KeysApart (args : List (Units × JsValue)) : Prop :=
  ∀ left ∈ args.map Prod.fst, ∀ right ∈ args.map Prod.fst,
    locale.notAfter left right = true → locale.notAfter right left = true → left = right

theorem sortedKeys_congr (apart : KeysApart locale args)
    (same : (others.map Prod.fst).Perm (args.map Prod.fst)) :
    sortedKeys locale others = sortedKeys locale args := by
  have total : Std.Total fun left right => locale.notAfter left right = true :=
    ⟨fun left right => by simpa using locale.total left right⟩
  have trans : IsTrans Units fun left right => locale.notAfter left right = true :=
    ⟨locale.trans⟩
  have inside := sortedKeys_perm locale args
  have inside' := (sortedKeys_perm locale others).trans same
  refine List.Perm.eq_of_pairwise (fun left right member member' => ?_)
    (List.pairwise_insertionSort _ _) (List.pairwise_insertionSort _ _) (inside'.trans inside.symm)
  exact apart left (inside'.mem_iff.mp member) right (inside.mem_iff.mp member')

theorem argsText_congr (json : (JsValue.object args).IsJson)
    (othersJson : (JsValue.object others).IsJson) (apart : KeysApart locale args)
    (same : (JsValue.object others).Same (.object args)) :
    argsText locale others = argsText locale args := by
  have keys : (others.map Prod.fst).Perm (args.map Prod.fst) := by
    have normals := same
    rw [JsValue.Same, JsValue.normal_object, JsValue.normal_object] at normals
    have sorted := JsValue.object.inj normals
    have perm := ((sortEntries_keys _).symm.trans
      (List.Perm.of_eq (congrArg (List.map Prod.fst) sorted))).trans (sortEntries_keys _)
    rw [List.map_map, List.map_map] at perm
    exact perm
  unfold argsText
  rw [sortedKeys_congr locale apart keys, ← listedSyntax_normal _ othersJson, same,
    listedSyntax_normal _ json]

end Klura
