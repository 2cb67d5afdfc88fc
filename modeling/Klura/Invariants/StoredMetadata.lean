import Klura.Store.RunFiles

/-! Which metadata and which tasks are read back as they were stored. -/

namespace Klura

open StrictJson

namespace RunFiles

/-! What the parsers of the parts of metadata accept. -/

variable {left right : JsValue}

theorem textOf_same (same : left.Same right) : textOf left = textOf right := by
  cases right with
  | string text => rw [same.string]
  | _ =>
    cases left with
    | string text => nomatch JsValue.Same.string same.symm
    | _ => rfl

theorem integerOf_same (same : left.Same right) :
    integerOf left = integerOf right := by
  have finite (value : JsValue) (other : integerOf value ≠ 0) :
      ∃ negative magnitude, value = .number (.finite negative magnitude) := by
    cases value with
    | number number =>
      cases number with
      | finite negative magnitude => exact ⟨negative, magnitude, rfl⟩
      | infinite negative => exact absurd rfl other
    | _ => exact absurd rfl other
  by_cases zero : integerOf right = 0
  · by_cases first : integerOf left = 0
    · rw [first, zero]
    · obtain ⟨negative, magnitude, rfl⟩ := finite left first
      obtain ⟨sign, rfl, -⟩ := JsValue.Same.number same.symm
      rfl
  · obtain ⟨negative, magnitude, rfl⟩ := finite right zero
    obtain ⟨sign, rfl, -⟩ := JsValue.Same.number same
    rfl

theorem isEmptyArray_same (same : left.Same right) :
    isEmptyArray left = isEmptyArray right := by
  cases right with
  | array items =>
    obtain ⟨others, rfl, each⟩ := same.array
    cases each <;> rfl
  | _ =>
    cases left with
    | array items =>
      obtain ⟨others, other, -⟩ := JsValue.Same.array same.symm
      nomatch other
    | _ => rfl

theorem string_faithful {parse : ValueParser}
    (accepts : ∀ value field result, parse value field = .ok result →
      ∃ text, value = .string text ∧ result = .string text)
    (again : ∀ value field result where_, parse value field = .ok result →
      ∃ rebuilt, parse value where_ = .ok rebuilt) : Faithful parse 0 where
  rebuilds value field result _ parsed := by
    obtain ⟨text, rfl, rfl⟩ := accepts value field result parsed
    exact ⟨rfl, trivial, Nat.le_refl 0⟩
  again value field result other where_ _ parsed same := by
    obtain ⟨text, rfl, rfl⟩ := accepts value field result parsed
    obtain rfl := same.string
    exact again _ field _ where_ parsed

theorem choice_faithful (choices : List Units) (message : String) :
    Faithful (choiceParser choices message) 0 := by
  apply string_faithful
  · intro value field result parsed
    unfold choiceParser at parsed
    split at parsed
    · split at parsed
      · cases parsed
        exact ⟨_, rfl, rfl⟩
      · nomatch parsed
    · nomatch parsed
  · intro value field result where_ parsed
    unfold choiceParser at parsed ⊢
    split at parsed
    · split at parsed
      · rename_i allowed
        exact ⟨_, if_pos allowed⟩
      · nomatch parsed
    · nomatch parsed

theorem path_faithful : Faithful parseAbsoluteOutputPath 0 := by
  apply string_faithful
  · intro value field result parsed
    unfold parseAbsoluteOutputPath at parsed
    split at parsed
    · split at parsed
      · nomatch parsed
      · cases parsed
        exact ⟨_, rfl, rfl⟩
    · nomatch parsed
  · intro value field result where_ parsed
    unfold parseAbsoluteOutputPath at parsed ⊢
    split at parsed
    · split at parsed
      · nomatch parsed
      · exact ⟨_, rfl⟩
    · nomatch parsed

theorem instant_faithful : Faithful parseInstant 0 := by
  have real : ∀ value field text, StrictJson.parseRfc3339Instant value field = .ok text →
      parseForm isInstantForm "must be a UTC RFC 3339 instant with second precision" 20 value field =
        .ok text ∧ isRealInstant text = true := by
    intro value field text parsed
    obtain ⟨own, formed, parsed⟩ := Klura.bind_ok.mp parsed
    split at parsed
    · rename_i real
      cases parsed
      exact ⟨formed, real⟩
    · nomatch parsed
  apply textParser_faithful fun text => isInstantForm text = true ∧ utf8Length text ≤ 20 ∧
    (∀ unit ∈ text, unit.toNat < 0x80) ∧ isRealInstant text = true
  · intro value field text parsed
    obtain ⟨formed, exists_⟩ := real value field text parsed
    obtain ⟨same, shaped, short, small⟩ := parseForm_ok formed
    exact ⟨same, shaped, short, small, exists_⟩
  · rintro text field ⟨shaped, short, small, exists_⟩
    exact Klura.bind_ok.mpr ⟨text, parseForm_string shaped short small, if_pos exists_⟩

theorem check_sound {levels : String → Nat} {refuses : Fields → Prop} [DecidablePred refuses]
    {failure : Units → Except PublicContractError Unit}
    (alike : ∀ fields others, SameFields fields others → (refuses fields ↔ refuses others))
    (refused : ∀ field, failure field ≠ .ok ()) :
    (RecordStep.check fun fields field =>
      if refuses fields then failure field else .ok ()).Sound levels := by
  intro fields others field where_ same _ passed
  dsimp only at passed
  split at passed
  · exact absurd passed (refused field)
  · rename_i accepted
    exact if_neg fun other => accepted ((alike fields others same).mpr other)

theorem range_faithful : Faithful parseRuntimeRange 1 := by
  have version : Faithful parseVersionText 0 := form_faithful _ _ _
  refine recordParser_faithful (by decide) (by decide) ?_
  simp only [List.forall_mem_cons, List.not_mem_nil, false_implies, implies_true, and_true]
  refine ⟨own_sound version (Nat.le_refl _), own_sound version (Nat.le_refl _), ?_⟩
  apply check_sound
  · intro fields others same
    rw [textOf_same (same.member "minimum_inclusive"), textOf_same (same.member "maximum_exclusive")]
  · rintro fields ⟨⟩

theorem artifact_faithful : Faithful parseArtifact 2 := by
  have digest : Faithful parseDigest 0 := form_faithful _ _ _
  refine recordParser_faithful (by decide) (by decide) ?_
  simp only [List.forall_mem_cons, List.not_mem_nil, false_implies, implies_true, and_true]
  exact ⟨own_sound (form_faithful _ _ _) (Nat.zero_le _), own_sound (form_faithful _ _ _) (Nat.zero_le _),
    own_sound digest (Nat.zero_le _), own_sound (form_faithful _ _ _) (Nat.zero_le _),
    own_sound range_faithful (Nat.le_refl _), own_sound digest (Nat.zero_le _)⟩

theorem parseClasses_ok {field : Units} {index : Nat} {seen classes : List Units}
    {items : List JsValue} (parsed : parseClasses field index seen items = .ok classes) :
    ∃ texts : List Units, items = texts.map .string ∧ classes = seen ++ texts ∧
      ∀ where_ place, parseClasses where_ place seen items = .ok classes := by
  induction items generalizing index seen with
  | nil =>
    cases parsed
    exact ⟨[], rfl, (List.append_nil _).symm, fun _ _ => rfl⟩
  | cons entry rest ih =>
    cases entry with
    | string text =>
      rw [parseClasses] at parsed
      by_cases unknown : text ∉ RETRY_CLASSES
      · rw [if_pos unknown] at parsed
        nomatch parsed
      rw [if_neg unknown] at parsed
      by_cases repeated : text ∈ seen
      · rw [if_pos repeated] at parsed
        nomatch parsed
      · rw [if_neg repeated] at parsed
        obtain ⟨texts, rfl, rfl, again⟩ := ih parsed
        refine ⟨text :: texts, rfl, by simp, fun where_ place => ?_⟩
        rw [parseClasses]
        rw [if_neg unknown, if_neg repeated]
        exact again where_ (place + 1)
    | _ => nomatch parsed

theorem same_texts {value : JsValue} {texts : List Units}
    (same : value.Same (.array (texts.map .string))) : value = .array (texts.map .string) := by
  obtain ⟨others, rfl, each⟩ := same.array
  clear same
  congr 1
  induction texts generalizing others with
  | nil =>
    cases each
    rfl
  | cons text texts ih =>
    cases each with
    | cons first rest =>
      rw [first.string, ih _ rest]
      rfl

/-- The classes that are tried again are parsed faithfully. -/
theorem classes_faithful : Faithful parseRetryClasses 1 := by
  have accepted : ∀ value field result, parseRetryClasses value field = .ok result →
      ∃ texts : List Units, value = .array (texts.map .string) ∧ result = value ∧
        ∀ where_, parseRetryClasses value where_ = .ok value := by
    intro value field result parsed
    cases value with
    | array items =>
      unfold parseRetryClasses at parsed
      dsimp only at parsed
      split_ifs at parsed with many
      · nomatch parsed
      obtain ⟨classes, own, ordered⟩ := Klura.bind_ok.mp parsed
      obtain ⟨texts, rfl, rfl, again⟩ := parseClasses_ok own
      split_ifs at ordered with unordered
      · nomatch ordered
      cases ordered
      refine ⟨classes, rfl, rfl, fun where_ => ?_⟩
      unfold parseRetryClasses
      dsimp only
      rw [if_neg many]
      exact Klura.bind_ok.mpr ⟨_, again where_ 0, if_neg unordered⟩
    | _ => nomatch parsed
  constructor
  · intro value field result _ parsed
    obtain ⟨texts, rfl, rfl, -⟩ := accepted value field result parsed
    refine ⟨rfl, ?_, ?_⟩
    · rw [JsValue.isJson_array]
      intro item member
      obtain ⟨text, -, rfl⟩ := List.mem_map.mp member
      trivial
    · rw [JsValue.depth_array]
      intro item member
      obtain ⟨text, -, rfl⟩ := List.mem_map.mp member
      exact Nat.zero_lt_one
  · intro value field result other where_ _ parsed same
    obtain ⟨texts, rfl, -, again⟩ := accepted value field result parsed
    rw [same_texts same]
    exact ⟨_, again where_⟩

theorem ratio_faithful : Faithful parseJitterRatio 0 := by
  constructor
  · intro value field result _ parsed
    unfold parseJitterRatio at parsed
    split at parsed
    · split at parsed
      · nomatch parsed
      · cases parsed
        exact ⟨rfl, trivial, Nat.le_refl 0⟩
    · nomatch parsed
  · intro value field result other where_ _ parsed same
    unfold parseJitterRatio at parsed
    split at parsed
    · rename_i negative magnitude
      split at parsed
      · nomatch parsed
      · rename_i within
        obtain ⟨sign, rfl, signed⟩ := JsValue.Same.number same
        refine ⟨_, if_neg fun outside => within ?_⟩
        rcases outside with ⟨minus, positive⟩ | large
        · exact .inl ⟨(signed positive).symm.trans minus, positive⟩
        · exact .inr large
    · nomatch parsed

theorem boolean_faithful : Faithful parseBoolean 0 := by
  constructor
  · intro value field result _ parsed
    cases value with
    | boolean truth =>
      cases parsed
      exact ⟨rfl, trivial, Nat.le_refl 0⟩
    | _ => nomatch parsed
  · intro value field result other where_ _ parsed same
    cases value with
    | boolean truth =>
      rw [same.boolean]
      exact ⟨_, rfl⟩
    | _ => nomatch parsed

theorem retry_faithful : Faithful parseCallRetryPolicy 2 := by
  refine recordParser_faithful (by decide) (by decide) ?_
  simp only [List.forall_mem_cons, List.not_mem_nil, false_implies, implies_true, and_true]
  refine ⟨own_sound (integer_faithful _ _) (Nat.zero_le _), own_sound classes_faithful (Nat.le_refl _),
    ?_, own_sound (integer_faithful _ _) (Nat.zero_le _), ?_, own_sound ratio_faithful (Nat.zero_le _),
    own_sound boolean_faithful (Nat.zero_le _)⟩
  · apply check_sound
    · intro fields others same
      rw [integerOf_same (same.member "max_retries"), isEmptyArray_same (same.member "on")]
    · rintro fields ⟨⟩
  · -- The bound below comes from another member, which is the same in both records.
    intro fields others same
    dsimp only
    rw [← integerOf_same (same.member "base_delay_ms")]
    have faithful := integer_faithful (integerOf (memberOf others "base_delay_ms")) 60000
    refine ⟨fun value field result differ parsed => ?_, faithful.again⟩
    obtain ⟨own, json, shallow⟩ := faithful.rebuilds value field result differ parsed
    exact ⟨own, json, shallow.trans (Nat.zero_le _)⟩

theorem durable_faithful : Faithful parseDurableBounds 1 := by
  refine recordParser_faithful (by decide) (by decide) ?_
  simp only [List.forall_mem_cons, List.not_mem_nil, false_implies, implies_true, and_true]
  refine ⟨?_, ?_, ?_, ?_, ?_, ?_⟩ <;> exact own_sound (integer_faithful _ _) (Nat.le_refl _)

theorem policy_faithful : Faithful parseScrapeRunPolicy 3 := by
  have number (key : String) (minimum maximum : Nat) :
      (RecordStep.own key (integerParser minimum maximum)).Sound fun _ => 2 :=
    own_sound (integer_faithful _ _) (Nat.zero_le _)
  refine recordParser_faithful (by decide) (by decide) ?_
  simp only [List.forall_mem_cons, List.not_mem_nil, false_implies, implies_true, and_true]
  refine ⟨number _ _ _, number _ _ _, ?_, number _ _ _, number _ _ _, number _ _ _, number _ _ _,
    number _ _ _, number _ _ _, number _ _ _, own_sound retry_faithful (Nat.le_refl _),
    own_sound durable_faithful (by decide)⟩
  apply check_sound
  · intro fields others same
    rw [integerOf_same (same.member "total_timeout_ms"),
      integerOf_same (same.member "per_request_timeout_ms")]
  · rintro fields ⟨⟩

theorem checkNamedLimits_iff {field : Units} {limits : Fields} :
    checkNamedLimits field limits = .ok () ↔ ∀ entry ∈ limits,
      (isStableIdentifierText entry.1 = true ∧ utf8Length entry.1 ≤ 64 ∧
        ∀ unit ∈ entry.1, unit.toNat < 0x80) ∧ isPositiveInteger entry.2 = true := by
  induction limits with
  | nil => exact iff_of_true rfl nofun
  | cons entry rest ih =>
    rw [List.forall_mem_cons, ← ih, checkNamedLimits]
    constructor
    · intro checked
      obtain ⟨text, named, checked⟩ := Klura.bind_ok.mp checked
      obtain ⟨same, shaped, short, small⟩ := parseForm_ok named
      cases same
      split_ifs at checked with refused
      · nomatch checked
      · exact ⟨⟨⟨shaped, short, small⟩, by simpa using refused⟩, checked⟩
    · rintro ⟨⟨⟨shaped, short, small⟩, positive⟩, checked⟩
      exact Klura.bind_ok.mpr ⟨entry.1, parseForm_string shaped short small,
        (if_neg (by simp [positive])).trans checked⟩

theorem isPositiveInteger_again {value other : JsValue} (positive : isPositiveInteger value = true)
    (same : other.Same value) : isPositiveInteger other = true ∧ value.IsJson ∧ value.depth = 0 := by
  unfold isPositiveInteger at positive
  split at positive
  · rename_i negative magnitude
    obtain ⟨sign, rfl, signed⟩ := JsValue.Same.number same
    have bounds := of_decide_eq_true positive
    have large : magnitude.units ≠ 0 := by
      intro zero
      rw [zero, Nat.zero_div] at bounds
      omega
    refine ⟨?_, trivial, rfl⟩
    rw [signed large]
    exact positive
  · nomatch positive

/-- Named limits are parsed faithfully. -/
theorem limits_faithful : Faithful parseNamedLimits 1 := by
  have accepted : ∀ value field result, parseNamedLimits value field = .ok result →
      ∃ limits, value = .object limits ∧ result = .object limits ∧ limits.length ≤ 64 ∧
        checkNamedLimits field limits = .ok () := by
    intro value field result parsed
    obtain ⟨limits, bounded, rest⟩ := Klura.bind_ok.mp parsed
    obtain ⟨⟨⟩, checked, same⟩ := Klura.bind_ok.mp rest
    cases same
    unfold parseBoundedRecord at bounded
    split at bounded
    · split at bounded
      · nomatch bounded
      · rename_i few
        cases bounded
        exact ⟨limits, rfl, rfl, Nat.le_of_not_lt few, checked⟩
    · nomatch bounded
  constructor
  · intro value field result differ parsed
    obtain ⟨limits, rfl, rfl, -, checked⟩ := accepted value field result parsed
    rw [checkNamedLimits_iff] at checked
    refine ⟨rfl, ?_, ?_⟩
    · rw [JsValue.isJson_object]
      refine ⟨((JsValue.keysDiffer_object limits).mp differ).1, fun entry member => ?_⟩
      exact (isPositiveInteger_again (checked entry member).2 rfl).2.1
    · rw [JsValue.depth_object]
      intro entry member
      rw [(isPositiveInteger_again (checked entry member).2 rfl).2.2]
      exact Nat.zero_lt_one
  · intro value field result other where_ differ parsed same
    obtain ⟨limits, rfl, rfl, few, checked⟩ := accepted value field result parsed
    rw [checkNamedLimits_iff] at checked
    obtain ⟨others, rfl, matching⟩ := SameFields.of_same same differ
    have distinct := ((JsValue.keysDiffer_object limits).mp differ).1
    have length : others.length = limits.length := by simpa using matching.keys.length_eq
    have again : checkNamedLimits where_ others = .ok () := by
      rw [checkNamedLimits_iff]
      intro entry member
      -- The key is one of the limits', the value of which is the same.
      obtain ⟨own, inside, named⟩ :=
        List.mem_map.mp (matching.keys.subset (List.mem_map_of_mem member))
      obtain ⟨found, there, values⟩ :=
        matching.values own.1 own.2 (OrderedMap.get?_of_mem distinct inside)
      have only := OrderedMap.get?_of_mem (matching.keys.nodup_iff.mpr distinct) member
      rw [named, only] at there
      cases there
      rw [← named]
      exact ⟨(checked own inside).1, (isPositiveInteger_again (checked own inside).2 values).1⟩
    refine ⟨.object others, Klura.bind_ok.mpr ⟨others, ?_, Klura.bind_ok.mpr ⟨(), again, rfl⟩⟩⟩
    exact if_neg (by omega)

theorem bounds_faithful : Faithful parseEffectiveBounds 4 := by
  refine recordParser_faithful (by decide) (by decide) ?_
  simp only [List.forall_mem_cons, List.not_mem_nil, false_implies, implies_true, and_true]
  exact ⟨own_sound limits_faithful (by decide), own_sound policy_faithful (Nat.le_refl _)⟩

/-- Where the items go is parsed faithfully. -/
theorem output_faithful : Faithful parseRunOutput 1 := by
  have inline : Faithful (recordParser (keysOf ["kind"])
      [.own "kind" (choiceParser [ascii "inline"] "is invalid")]) 1 := by
    refine recordParser_faithful (by decide) (by decide) ?_
    simp only [List.forall_mem_cons, List.not_mem_nil, false_implies, implies_true, and_true]
    exact own_sound (choice_faithful _ _) (Nat.le_refl _)
  have file : Faithful (recordParser (keysOf ["kind", "requested_path", "format"])
      [.own "kind" (choiceParser [ascii "file"] "is invalid"),
        .own "requested_path" parseAbsoluteOutputPath,
        .own "format" (choiceParser [ascii "json", ascii "ndjson", ascii "csv"]
          "must be json, ndjson, or csv")]) 1 := by
    refine recordParser_faithful (by decide) (by decide) ?_
    simp only [List.forall_mem_cons, List.not_mem_nil, false_implies, implies_true, and_true]
    exact ⟨own_sound (choice_faithful _ _) (Nat.le_refl _), own_sound path_faithful (Nat.le_refl _),
      own_sound (choice_faithful _ _) (Nat.le_refl _)⟩
  constructor
  · intro value field result differ parsed
    cases value with
    | object fields =>
      unfold parseRunOutput at parsed
      dsimp only at parsed
      split_ifs at parsed with kind other
      · exact inline.rebuilds _ _ _ differ parsed
      · exact file.rebuilds _ _ _ differ parsed
      · cases parsed
    | _ => cases parsed
  · intro value field result other where_ differ parsed same
    cases value with
    | object fields =>
      obtain ⟨others, rfl, matching⟩ := SameFields.of_same same differ
      have kinds := textOf_same (matching.member "kind")
      unfold parseRunOutput at parsed ⊢
      dsimp only at parsed ⊢
      rw [kinds]
      split_ifs at parsed ⊢ with kind known
      · exact inline.again _ _ _ _ where_ differ parsed same
      · exact file.again _ _ _ _ where_ differ parsed same
      · cases parsed
    | _ => cases parsed

theorem session_faithful : Faithful parseRunSessionReference 1 := by
  have digest : Faithful parseDigest 0 := form_faithful _ _ _
  refine recordParser_faithful (by decide) (by decide) ?_
  simp only [List.forall_mem_cons, List.not_mem_nil, false_implies, implies_true, and_true]
  exact ⟨own_sound (form_faithful _ _ _) (Nat.le_refl _), own_sound (form_faithful _ _ _) (Nat.le_refl _),
    own_sound (integer_faithful _ _) (Nat.le_refl _), own_sound digest (Nat.le_refl _),
    own_sound digest (Nat.le_refl _)⟩

theorem one_faithful : Faithful parseOne 0 := by
  have finite : ∀ value : JsValue, value.isNat 1 = true → ∃ negative magnitude,
      value = .number (.finite negative magnitude) ∧ magnitude.units ≠ 0 := by
    intro value one
    unfold JsValue.isNat at one
    split at one
    · rename_i negative magnitude
      refine ⟨negative, magnitude, rfl, fun zero => ?_⟩
      rw [zero] at one
      have positive := unitsPerOne_pos
      simp at one
      omega
    · nomatch one
  constructor
  · intro value field result _ parsed
    unfold parseOne at parsed
    split_ifs at parsed with one
    · obtain ⟨negative, magnitude, rfl, -⟩ := finite value one
      cases parsed
      exact ⟨rfl, trivial, Nat.le_refl 0⟩
    · nomatch parsed
  · intro value field result other where_ _ parsed same
    unfold parseOne at parsed ⊢
    split_ifs at parsed with one
    · obtain ⟨negative, magnitude, rfl, positive⟩ := finite value one
      obtain ⟨sign, rfl, signed⟩ := JsValue.Same.number same
      rw [signed positive, if_pos one]
      exact ⟨_, rfl⟩
    · nomatch parsed

theorem input_faithful : Faithful parseCanonicalInput READER_DEPTH := by
  constructor
  · intro value field result differ parsed
    obtain ⟨⟨⟩, asserted, same⟩ := Klura.bind_ok.mp parsed
    cases same
    unfold assertJsonValue at asserted
    rw [assertJsonValueAt_iff differ] at asserted
    exact ⟨rfl, asserted.1, by omega⟩
  · intro value field result other where_ differ parsed same
    obtain ⟨⟨⟩, asserted, -⟩ := Klura.bind_ok.mp parsed
    unfold assertJsonValue at asserted
    rw [assertJsonValueAt_iff differ] at asserted
    have again := (@assertJsonValue_json other (same.isJson asserted.1) where_ READER_DEPTH).mpr
      (same.depth_le (by omega))
    exact ⟨other, Klura.bind_ok.mpr ⟨(), again, rfl⟩⟩

variable {value result : JsValue} {field : Units}

/-- Metadata has the keys that it must have, and it may have a session. -/
theorem parseRunMeta_ok :
    parseRunMeta value field = .ok result ↔ ∃ fields members, value = .object fields ∧
      fields.length ≤ 10 ∧ (∀ entry ∈ fields, entry.1 ∈ requiredKeys ++ [ascii "session"]) ∧
      (∀ key ∈ requiredKeys, key ∈ fields.map Prod.fst) ∧
      runSteps fields field (metaSteps ++ sessionSteps fields) = .ok members ∧
      result = .object members := by
  constructor
  · intro parsed
    obtain ⟨fields, bounded, looked⟩ := Klura.bind_ok.mp parsed
    clear parsed
    unfold parseBoundedRecord at bounded
    split at bounded
    · split at bounded
      · nomatch bounded
      · rename_i few
        cases bounded
        split at looked
        · nomatch looked
        · rename_i known
          split at looked
          · nomatch looked
          · rename_i present
            obtain ⟨members, ran, same⟩ := Klura.map_ok.mp looked
            refine ⟨fields, members, rfl, Nat.le_of_not_lt few, ?_, ?_, ran, same.symm⟩
            · intro entry member
              by_contra unknown
              exact List.find?_eq_none.mp known entry member (decide_eq_true unknown)
            · intro key wanted
              have there := List.find?_eq_none.mp present key wanted
              refine OrderedMap.get?_isSome_iff.mp (Option.isSome_iff_ne_none.mpr fun absent => there ?_)
              exact Option.isNone_iff_eq_none.mpr absent
    · nomatch bounded
  · rintro ⟨fields, members, rfl, few, known, present, ran, rfl⟩
    refine Klura.bind_ok.mpr ⟨fields, if_neg (Nat.not_lt.mpr few), ?_⟩
    have first : (fields.find? fun entry =>
        decide (entry.1 ∉ requiredKeys ++ [ascii "session"])) = none := by
      rw [List.find?_eq_none]
      intro entry member unknown
      exact of_decide_eq_true unknown (known entry member)
    have second : (requiredKeys.find? fun key => (member fields key).isNone) = none := by
      rw [List.find?_eq_none]
      intro key wanted
      have there := OrderedMap.get?_isSome_iff.mpr (present key wanted)
      simpa [member, Option.isSome_iff_ne_none] using there
    rw [first]
    dsimp only
    rw [second]
    exact Klura.map_ok.mpr ⟨members, ran, rfl⟩

end RunFiles

end Klura
