import Klura.Contracts.RenderedText
import Klura.Contracts.Stored
import Klura.Contracts.Versions

/-! Parsers of records that rebuild what they accept, and accept it again in another order of keys. -/

namespace Klura

theorem JsValue.Same.of_members {left right : List (Units × JsValue)}
    (distinct : (left.map Prod.fst).Nodup) (keys : (left.map Prod.fst).Perm (right.map Prod.fst))
    (values : ∀ key inner, OrderedMap.get? left key = some inner →
      ∃ other, OrderedMap.get? right key = some other ∧ inner.Same other) :
    (JsValue.object left).Same (.object right) := by
  have normals : (left.map fun entry => (entry.1, entry.2.normal)).Perm
      (right.map fun entry => (entry.1, entry.2.normal)) := by
    have first : ((left.map fun entry => (entry.1, entry.2.normal)).map Prod.fst).Nodup := by
      rw [List.map_map]
      exact distinct
    have second : ((right.map fun entry => (entry.1, entry.2.normal)).map Prod.fst).Nodup := by
      rw [List.map_map]
      exact keys.nodup_iff.mp distinct
    have inside : (left.map fun entry => (entry.1, entry.2.normal)) ⊆
        right.map fun entry => (entry.1, entry.2.normal) := by
      intro entry member
      obtain ⟨source, given, rfl⟩ := List.mem_map.mp member
      obtain ⟨other, found, same⟩ := values source.1 source.2 (OrderedMap.get?_of_mem distinct given)
      exact List.mem_map.mpr ⟨_, OrderedMap.mem_of_get? found, congrArg (Prod.mk source.1) same.symm⟩
    refine (List.subperm_of_subset first.of_map inside).perm_of_length_le ?_
    rw [List.length_map, List.length_map]
    simpa using keys.length_eq.symm.le
  unfold JsValue.Same
  rw [JsValue.normal_object, JsValue.normal_object]
  congr 1
  apply StrictJson.sortEntries_congr normals
  rw [List.map_map]
  exact distinct

theorem JsValue.Same.array {value : JsValue} {items : List JsValue}
    (same : value.Same (.array items)) :
    ∃ others, value = .array others ∧ List.Forall₂ JsValue.Same others items := by
  cases value with
  | number other => cases other <;> simp [Same, normal] at same
  | array others =>
    simp only [Same, normal_array, JsValue.array.injEq] at same
    refine ⟨others, rfl, ?_⟩
    induction others generalizing items with
    | nil =>
      rw [List.map_nil] at same
      rw [List.map_eq_nil_iff.mp same.symm]
      exact .nil
    | cons other rest ih =>
      cases items with
      | nil => simp at same
      | cons item items =>
        rw [List.map_cons, List.map_cons, List.cons.injEq] at same
        exact .cons same.1 (ih same.2)
  | _ => simp [Same, normal] at same

namespace StrictJson

/-- A parser that rebuilds the value it accepts. -/
abbrev ValueParser : Type := JsValue → Units → Except PublicContractError JsValue

/-- The parser of a text. -/
def textParser (parse : JsValue → Units → Except PublicContractError Units) : ValueParser :=
  fun value field => (parse value field).map .string

/-- The parser of an integer between bounds. -/
def integerParser (minimum maximum : Nat) : ValueParser :=
  fun value field => (parseInteger value field minimum maximum).map fun _ => value

/-- A step of a record's parser: a member of the record, the parser of which may look at the others,
or a check of the record. -/
inductive RecordStep where
  | member (key : String) (parse : Fields → ValueParser)
  | check (passes : Fields → Units → Except PublicContractError Unit)

/-- A member with a parser of its own. -/
def RecordStep.own (key : String) (parse : ValueParser) : RecordStep := .member key fun _ => parse

/-- The members that the steps of a record's parser rebuild. -/
def runSteps (fields : Fields) (field : Units) : List RecordStep → Except PublicContractError Fields
  | [] => .ok []
  | .member key parse :: rest => do
    let value ← parse fields (memberOf fields key) (memberField field (ascii key))
    let members ← runSteps fields field rest
    .ok ((ascii key, value) :: members)
  | .check passes :: rest => do
    passes fields field
    runSteps fields field rest

/-- The keys that steps rebuild. -/
def stepKeys : List RecordStep → List Units
  | [] => []
  | .member key _ :: rest => ascii key :: stepKeys rest
  | .check _ :: rest => stepKeys rest

/-- The parser of a record with exactly these keys. -/
def recordParser (allowedKeys : List Units) (steps : List RecordStep) : ValueParser :=
  fun value field => do
    let fields ← parseExactRecord value field allowedKeys
    (runSteps fields field steps).map .object

/-- Two records with the same keys, each of which has values that are the same. -/
structure SameFields (fields others : Fields) : Prop where
  keys : (others.map Prod.fst).Perm (fields.map Prod.fst)
  values : ∀ key inner, OrderedMap.get? fields key = some inner →
    ∃ other, OrderedMap.get? others key = some other ∧ other.Same inner

/-- What a parser accepts it rebuilds as a value of JSON of bounded depth, and another parser accepts
whatever is the same. -/
structure Carries (parse later : ValueParser) (levels : Nat) : Prop where
  rebuilds : ∀ value field result, value.KeysDiffer → parse value field = .ok result →
    result.Same value ∧ result.IsJson ∧ result.depth ≤ levels
  again : ∀ value field result other where_, value.KeysDiffer → parse value field = .ok result →
    other.Same value → ∃ rebuilt, later other where_ = .ok rebuilt

/-- A parser that accepts what is the same as a value it has accepted. -/
abbrev Faithful (parse : ValueParser) (levels : Nat) : Prop := Carries parse parse levels

/-- A step that acts alike on records that are the same, and rebuilds a member of bounded depth. -/
def RecordStep.Sound (levels : String → Nat) : RecordStep → Prop
  | .member key parse => ∀ fields others, SameFields fields others →
    Carries (parse fields) (parse others) (levels key)
  | .check passes => ∀ fields others field where_, SameFields fields others →
    (JsValue.object fields).KeysDiffer → passes fields field = .ok () → passes others where_ = .ok ()

variable {fields others : Fields} {levels : String → Nat}

theorem SameFields.refl (fields : Fields) : SameFields fields fields :=
  ⟨.refl _, fun _ inner found => ⟨inner, found, rfl⟩⟩

theorem SameFields.member (same : SameFields fields others) (key : String) :
    (memberOf others key).Same (memberOf fields key) := by
  unfold memberOf StrictJson.member
  cases found : OrderedMap.get? fields (ascii key) with
  | some inner =>
    obtain ⟨other, there, values⟩ := same.values _ _ found
    rw [there]
    exact values
  | none =>
    have absent : OrderedMap.get? others (ascii key) = none := by
      rw [OrderedMap.get?_eq_none_iff] at found ⊢
      exact fun inside => found (same.keys.subset inside)
    rw [absent]
    rfl

theorem member_keysDiffer (differ : (JsValue.object fields).KeysDiffer) (key : String) :
    (memberOf fields key).KeysDiffer := by
  unfold memberOf StrictJson.member
  cases found : OrderedMap.get? fields (ascii key) with
  | none => trivial
  | some inner =>
    rw [JsValue.keysDiffer_object] at differ
    exact differ.2 _ (OrderedMap.mem_of_get? found)

variable {steps : List RecordStep} {field : Units}

variable {members : Fields}

theorem runSteps_rebuilds (sound : ∀ step ∈ steps, step.Sound levels)
    (differ : (JsValue.object fields).KeysDiffer) (ran : runSteps fields field steps = .ok members) :
    members.map Prod.fst = stepKeys steps ∧ ∀ entry ∈ members, ∃ key : String,
      entry.1 = ascii key ∧ entry.2.Same (memberOf fields key) ∧ entry.2.IsJson ∧
        entry.2.depth ≤ levels key := by
  induction steps generalizing members with
  | nil =>
    cases ran
    exact ⟨rfl, nofun⟩
  | cons step rest ih =>
    have later := fun other member => sound other (List.mem_cons_of_mem step member)
    cases step with
    | member key parse =>
      obtain ⟨value, parsed, ran⟩ := Klura.bind_ok.mp ran
      obtain ⟨behind, runs, same⟩ := Klura.bind_ok.mp ran
      cases same
      obtain ⟨keys, values⟩ := ih later runs
      have carries := sound _ List.mem_cons_self fields fields (.refl fields)
      have rebuilt := carries.rebuilds _ _ _ (member_keysDiffer differ key) parsed
      refine ⟨by rw [List.map_cons, keys]; rfl, ?_⟩
      intro entry member
      rcases List.mem_cons.mp member with rfl | inside
      · exact ⟨key, rfl, rebuilt⟩
      · exact values entry inside
    | check passes =>
      obtain ⟨-, -, ran⟩ := Klura.bind_ok.mp ran
      exact ih later ran

theorem runSteps_again (sound : ∀ step ∈ steps, step.Sound levels)
    (differ : (JsValue.object fields).KeysDiffer) (same : SameFields fields others)
    (ran : runSteps fields field steps = .ok members) (where_ : Units) :
    ∃ rebuilt, runSteps others where_ steps = .ok rebuilt := by
  induction steps generalizing members with
  | nil => exact ⟨[], rfl⟩
  | cons step rest ih =>
    have later := fun other member => sound other (List.mem_cons_of_mem step member)
    cases step with
    | member key parse =>
      obtain ⟨value, parsed, ran⟩ := Klura.bind_ok.mp ran
      obtain ⟨behind, runs, -⟩ := Klura.bind_ok.mp ran
      obtain ⟨rebuilt, runs⟩ := ih later runs
      have carries := sound _ List.mem_cons_self fields others same
      obtain ⟨own, parses⟩ := carries.again _ _ _ _ (memberField where_ (ascii key))
        (member_keysDiffer differ key) parsed (same.member key)
      exact ⟨(ascii key, own) :: rebuilt,
        Klura.bind_ok.mpr ⟨own, parses, Klura.bind_ok.mpr ⟨rebuilt, runs, rfl⟩⟩⟩
    | check passes =>
      obtain ⟨⟨⟩, passed, runs⟩ := Klura.bind_ok.mp ran
      obtain ⟨rebuilt, runs⟩ := ih later runs
      have checked := sound _ List.mem_cons_self fields others field where_ same differ passed
      exact ⟨rebuilt, Klura.bind_ok.mpr ⟨(), checked, runs⟩⟩

/-- A record that sound steps have rebuilt is the same as it was. -/
theorem runSteps_same (sound : ∀ step ∈ steps, step.Sound levels)
    (differ : (JsValue.object fields).KeysDiffer)
    (keys : (stepKeys steps).Perm (fields.map Prod.fst))
    (ran : runSteps fields field steps = .ok members) {most : Nat}
    (bound : ∀ key, levels key ≤ most) :
    (JsValue.object members).Same (.object fields) ∧ (JsValue.object members).IsJson ∧
      (JsValue.object members).depth ≤ most + 1 := by
  obtain ⟨rebuilt, values⟩ := runSteps_rebuilds sound differ ran
  have distinct := (JsValue.keysDiffer_object fields).mp differ
  have apart : (members.map Prod.fst).Nodup := by
    rw [rebuilt]
    exact keys.nodup_iff.mpr distinct.1
  refine ⟨.of_members apart (by rw [rebuilt]; exact keys) ?_, ?_, ?_⟩
  · intro key inner found
    obtain ⟨name, same, own, -, -⟩ := values _ (OrderedMap.mem_of_get? found)
    dsimp only at same own
    subst same
    have inside : ascii name ∈ fields.map Prod.fst :=
      keys.subset (rebuilt ▸ List.mem_map_of_mem (OrderedMap.mem_of_get? found))
    obtain ⟨other, there⟩ := Option.isSome_iff_exists.mp (OrderedMap.get?_isSome_iff.mpr inside)
    refine ⟨other, there, ?_⟩
    rw [memberOf, StrictJson.member, there] at own
    exact own
  · rw [JsValue.isJson_object]
    refine ⟨apart, fun entry member => ?_⟩
    obtain ⟨_, -, -, json, -⟩ := values entry member
    exact json
  · rw [JsValue.depth_object]
    intro entry member
    obtain ⟨key, -, -, -, shallow⟩ := values entry member
    exact Nat.lt_succ_of_le (shallow.trans (bound key))

variable {allowedKeys : List Units}

theorem exactRecord_keys (distinct : allowedKeys.Nodup)
    (differ : (JsValue.object fields).KeysDiffer)
    (accepted : parseExactRecord (.object fields) field allowedKeys = .ok fields) :
    allowedKeys.Perm (fields.map Prod.fst) := by
  obtain ⟨within, present⟩ := parseExactRecord_ok.mp accepted
  rw [JsValue.keysDiffer_object] at differ
  rw [List.perm_ext_iff_of_nodup distinct differ.1]
  intro key
  constructor
  · intro wanted
    exact OrderedMap.get?_isSome_iff.mp (present key wanted)
  · intro inside
    obtain ⟨entry, member, rfl⟩ := List.mem_map.mp inside
    exact within entry member

variable {value : JsValue}

theorem exactRecord_object {fields : Fields}
    (accepted : parseExactRecord value field allowedKeys = .ok fields) :
    value = .object fields := by
  cases value with
  | object own =>
    unfold parseExactRecord at accepted
    dsimp only at accepted
    split at accepted
    · nomatch accepted
    · split at accepted
      · nomatch accepted
      · cases accepted
        rfl
  | _ => nomatch accepted

theorem SameFields.of_same (same : value.Same (.object fields))
    (differ : (JsValue.object fields).KeysDiffer) :
    ∃ others, value = .object others ∧ SameFields fields others := by
  obtain ⟨others, rfl, keys, values⟩ := same.object ((JsValue.keysDiffer_object fields).mp differ).1
  exact ⟨others, rfl, keys, values⟩

theorem exactRecord_again (same : SameFields fields others)
    (accepted : parseExactRecord (.object fields) field allowedKeys = .ok fields) (where_ : Units) :
    parseExactRecord (.object others) where_ allowedKeys = .ok others := by
  obtain ⟨within, present⟩ := parseExactRecord_ok.mp accepted
  rw [parseExactRecord_ok]
  constructor
  · intro entry member
    obtain ⟨own, inside, named⟩ := List.mem_map.mp (same.keys.subset (List.mem_map_of_mem member))
    rw [← named]
    exact within own inside
  · intro key wanted
    have inside := OrderedMap.get?_isSome_iff.mp (present key wanted)
    exact OrderedMap.get?_isSome_iff.mpr (same.keys.symm.subset inside)

theorem recordParser_faithful {most : Nat} (distinct : allowedKeys.Nodup)
    (keys : (stepKeys steps).Perm allowedKeys) (sound : ∀ step ∈ steps, step.Sound fun _ => most) :
    Faithful (recordParser allowedKeys steps) (most + 1) where
  rebuilds value field result differ parsed := by
    obtain ⟨fields, accepted, parsed⟩ := Klura.bind_ok.mp parsed
    obtain ⟨members, ran, rfl⟩ := Klura.map_ok.mp parsed
    obtain rfl := exactRecord_object accepted
    exact runSteps_same sound differ (keys.trans (exactRecord_keys distinct differ accepted)) ran
      fun _ => Nat.le_refl _
  again value field result other where_ differ parsed same := by
    obtain ⟨fields, accepted, parsed⟩ := Klura.bind_ok.mp parsed
    obtain ⟨members, ran, rfl⟩ := Klura.map_ok.mp parsed
    obtain rfl := exactRecord_object accepted
    obtain ⟨others, rfl, matching⟩ := SameFields.of_same same differ
    obtain ⟨rebuilt, runs⟩ := runSteps_again sound differ matching ran where_
    exact ⟨.object rebuilt, Klura.bind_ok.mpr
      ⟨others, exactRecord_again matching accepted where_, Klura.map_ok.mpr ⟨rebuilt, runs, rfl⟩⟩⟩

theorem own_sound {key : String} {parse : ValueParser} {depth : Nat} (faithful : Faithful parse depth)
    (within : depth ≤ levels key) : (RecordStep.own key parse).Sound levels := by
  intro fields others same
  refine ⟨?_, faithful.again⟩
  intro value field result differ parsed
  obtain ⟨own, json, shallow⟩ := faithful.rebuilds value field result differ parsed
  exact ⟨own, json, shallow.trans within⟩

theorem textParser_faithful {parse : JsValue → Units → Except PublicContractError Units}
    (form : Units → Prop) (accepts : ∀ value field text, parse value field = .ok text →
      value = .string text ∧ form text)
    (again : ∀ text field, form text → parse (.string text) field = .ok text) :
    Faithful (textParser parse) 0 where
  rebuilds value field result _ parsed := by
    obtain ⟨text, accepted, rfl⟩ := Klura.map_ok.mp parsed
    obtain ⟨rfl, -⟩ := accepts value field text accepted
    exact ⟨rfl, trivial, Nat.le_refl 0⟩
  again value field result other where_ _ parsed same := by
    obtain ⟨text, accepted, rfl⟩ := Klura.map_ok.mp parsed
    obtain ⟨rfl, formed⟩ := accepts value field text accepted
    obtain rfl := same.string
    exact ⟨.string text, Klura.map_ok.mpr ⟨text, again text where_ formed, rfl⟩⟩

theorem form_faithful (form : Units → Bool) (message : String) (maxBytes : Nat) :
    Faithful (textParser (parseForm form message maxBytes)) 0 := by
  refine textParser_faithful (fun text => form text = true ∧ utf8Length text ≤ maxBytes ∧
    ∀ unit ∈ text, unit.toNat < 0x80) (fun _ _ _ => parseForm_ok) ?_
  rintro text field ⟨shaped, short, small⟩
  exact parseForm_string shaped short small

theorem match_faithful (form : Units → Bool) (message : String) :
    Faithful (textParser (parseMatch form message)) 0 :=
  textParser_faithful (fun text => form text = true) (fun _ _ _ => parseMatch_ok)
    (fun _ _ shaped => parseMatch_string shaped)

theorem parseInteger_again {other : JsValue} {minimum maximum number : Nat}
    (parsed : parseInteger value field minimum maximum = .ok number) (same : other.Same value)
    (where_ : Units) : parseInteger other where_ minimum maximum = .ok number := by
  unfold parseInteger at parsed
  dsimp only at parsed
  split at parsed
  · rename_i negative magnitude
    split at parsed
    · rename_i bounds
      cases parsed
      obtain ⟨sign, rfl, signed⟩ := JsValue.Same.number same
      have whole : sign = false ∨ magnitude.units / unitsPerOne = 0 := by
        by_cases zero : magnitude.units = 0
        · right
          rw [zero, Nat.zero_div]
        · rw [signed zero]
          exact bounds.2.1
      unfold parseInteger
      dsimp only
      rw [if_pos ⟨bounds.1, whole, bounds.2.2⟩]
    · nomatch parsed
  · nomatch parsed

theorem integer_faithful (minimum maximum : Nat) : Faithful (integerParser minimum maximum) 0 where
  rebuilds value field result _ parsed := by
    obtain ⟨number, accepted, rfl⟩ := Klura.map_ok.mp parsed
    unfold parseInteger at accepted
    dsimp only at accepted
    split at accepted
    · exact ⟨rfl, trivial, Nat.le_refl 0⟩
    · nomatch accepted
  again value field result other where_ _ parsed same := by
    obtain ⟨number, accepted, rfl⟩ := Klura.map_ok.mp parsed
    exact ⟨other, Klura.map_ok.mpr ⟨number, parseInteger_again accepted same where_, rfl⟩⟩

end StrictJson

end Klura
