import Klura.Cache.ArgsText

/-! The cache answers a call with what was stored for that call, when its key tells it apart. -/

namespace Klura

open StrictJson

theorem last_mark_inj {mark : UInt16} {front front' back back' : Units} (clean : mark ∉ back)
    (clean' : mark ∉ back') (same : front ++ mark :: back = front' ++ mark :: back') :
    front = front' ∧ back = back' := by
  have shorter : ∀ {front front' back back' middle : Units}, mark ∉ back →
      front' = front ++ middle → mark :: back = middle ++ mark :: back' →
      front = front' ∧ back = back' := by
    intro front front' back back' middle clean split rest
    cases middle with
    | nil => exact ⟨by simpa using split.symm, by simpa using rest⟩
    | cons first others =>
      have inside : back = others ++ mark :: back' := (List.cons.inj rest).2
      exact absurd (by simp [inside]) clean
  rcases List.append_eq_append_iff.mp same with ⟨middle, split, rest⟩ | ⟨middle, split, rest⟩
  · exact shorter clean split rest
  · obtain ⟨fronts, backs⟩ := shorter clean' split rest
    exact ⟨fronts.symm, backs.symm⟩

namespace CapabilityCallV1

/-- Two calls of one capability for one identity with equal arguments. -/
def Same (left right : CapabilityCallV1) : Prop :=
  left.platform = right.platform ∧ identityName left.identity = identityName right.identity ∧
    left.capability = right.capability ∧ (JsValue.object left.args).Same (.object right.args)

/-- Whether the mark between names stands nowhere but between the names. -/
def NamesApart (call : CapabilityCallV1) : Prop :=
  ∀ position < call.names.length, SEPARATOR.isPrefixOf (call.names.drop position) = true →
    position = call.platform.length ∨
      position = call.platform.length + 2 + (identityName call.identity).length

/-- Whether the key of a call tells it apart: the mark stands only between names, no argument is or
holds an object, and the locale tells the keys of the arguments apart. -/
def ToldApart (locale : LocaleCompare) (call : CapabilityCallV1) : Prop :=
  call.NamesApart ∧ (∀ entry ∈ call.args, entry.2.isFlat = true) ∧ KeysApart locale call.args

theorem names_marks (call : CapabilityCallV1) : ∀ position,
    position = call.platform.length ∨
      position = call.platform.length + 2 + (identityName call.identity).length →
    position < call.names.length ∧ SEPARATOR.isPrefixOf (call.names.drop position) = true := by
  have length : SEPARATOR.length = 2 := by decide
  intro position place
  have inside : position < call.names.length := by
    simp only [names, List.length_append, length]
    omega
  refine ⟨inside, ?_⟩
  rw [List.isPrefixOf_iff_prefix]
  rcases place with rfl | rfl
  · refine ⟨identityName call.identity ++ SEPARATOR ++ call.capability, ?_⟩
    simp [names, List.append_assoc]
  · refine ⟨call.capability, ?_⟩
    have front : call.platform.length + 2 + (identityName call.identity).length
        = (call.platform ++ SEPARATOR ++ identityName call.identity).length := by
      simp only [List.length_append, length]
    rw [front, names, List.append_assoc (call.platform ++ SEPARATOR ++ _), List.drop_left]

theorem names_inj {call other : CapabilityCallV1} (apart : call.NamesApart)
    (same : other.names = call.names) : other.platform = call.platform ∧
      identityName other.identity = identityName call.identity ∧
      other.capability = call.capability := by
  have length : SEPARATOR.length = 2 := by decide
  obtain ⟨inside, mark⟩ := other.names_marks _ (.inl rfl)
  obtain ⟨inside', mark'⟩ := other.names_marks _ (.inr rfl)
  rw [same] at inside mark inside' mark'
  -- Of the two places the first mark takes the first, since the second leaves it room.
  have first := apart _ inside mark
  have second := apart _ inside' mark'
  have platforms : other.platform.length = call.platform.length := by omega
  have identities : (identityName other.identity).length = (identityName call.identity).length := by
    omega
  simp only [names, List.append_assoc] at same
  obtain ⟨platform, rest⟩ := List.append_inj same platforms
  obtain ⟨-, rest⟩ := List.append_inj rest rfl
  obtain ⟨identity, rest⟩ := List.append_inj rest identities
  exact ⟨platform, identity, (List.append_inj rest rfl).2⟩

end CapabilityCallV1

variable {locale : LocaleCompare} {digest : ArgsDigest}

theorem stableArgsHash_clean (args : List (Units × JsValue)) :
    (58 : UInt16) ∉ stableArgsHash locale digest args := by
  cases args with
  | nil =>
    rw [stableArgsHash]
    decide
  | cons entry rest =>
    intro member
    have digit := digest.digits _ _ member
    exact absurd digit (by decide)

theorem stableArgsHash_inj {args others : List (Units × JsValue)}
    (json : (JsValue.object args).IsJson) (othersJson : (JsValue.object others).IsJson)
    (flat : ∀ entry ∈ args, entry.2.isFlat = true)
    (same : stableArgsHash locale digest others = stableArgsHash locale digest args) :
    (JsValue.object others).Same (.object args) := by
  -- The word for no arguments is none of the digests.
  have word : ∀ bytes, digest.hex bytes ≠ ascii "noargs" := by
    intro bytes equal
    have digit := digest.digits bytes 110 (by rw [equal]; decide)
    exact absurd digit (by decide)
  cases args with
  | nil =>
    cases others with
    | nil => rfl
    | cons entry rest => exact absurd same (word _)
  | cons entry rest =>
    cases others with
    | nil => exact absurd same.symm (word _)
    | cons entry' rest' =>
      have texts := congrArg decodeUtf8 (digest.injective same)
      rw [argsText, argsText, decodeUtf8_encodeUtf8 (listedSyntax_wellPaired _ _),
        decodeUtf8_encodeUtf8 (listedSyntax_wellPaired _ _)] at texts
      exact argsText_inj locale json othersJson flat texts

variable {call other : CapabilityCallV1}

theorem cacheKey_inj (apart : call.ToldApart locale)
    (same : cacheKey locale digest other = cacheKey locale digest call) : other.Same call := by
  have split : ∀ call : CapabilityCallV1, cacheKey locale digest call
      = (call.names ++ [58]) ++ 58 :: stableArgsHash locale digest call.args := by
    intro call
    have marks : SEPARATOR = [58, 58] := by decide
    simp [cacheKey, marks]
  rw [split, split] at same
  obtain ⟨fronts, hashes⟩ := last_mark_inj (stableArgsHash_clean _) (stableArgsHash_clean _) same
  obtain ⟨platform, identity, capability⟩ :=
    CapabilityCallV1.names_inj apart.1 (List.append_inj fronts (by
      have lengths := congrArg List.length fronts
      simp only [List.length_append] at lengths
      omega)).1
  exact ⟨platform, identity, capability,
    stableArgsHash_inj call.isJson other.isJson apart.2.1 hashes⟩

theorem cacheKey_congr (apart : KeysApart locale call.args) (same : other.Same call) :
    cacheKey locale digest other = cacheKey locale digest call := by
  obtain ⟨platform, identity, capability, args⟩ := same
  have names : other.names = call.names := by
    rw [CapabilityCallV1.names, CapabilityCallV1.names, platform, identity, capability]
  have texts := argsText_congr locale call.isJson other.isJson apart args
  have hashes : stableArgsHash locale digest other.args = stableArgsHash locale digest call.args := by
    -- Equal arguments are as many.
    have lengths : other.args.length = call.args.length := by
      have normals := args
      rw [JsValue.Same, JsValue.normal_object, JsValue.normal_object] at normals
      have sorted := congrArg List.length (JsValue.object.inj normals)
      rw [(sortEntries_perm _).length_eq, (sortEntries_perm _).length_eq] at sorted
      simpa using sorted
    cases given : call.args with
    | nil =>
      rw [given] at lengths
      rw [List.length_eq_zero_iff.mp lengths]
    | cons entry rest =>
      cases given' : other.args with
      | nil => simp [given, given'] at lengths
      | cons entry' rest' =>
        rw [given, given'] at texts
        rw [stableArgsHash, stableArgsHash, texts]
  rw [cacheKey, cacheKey, names, hashes]

namespace CacheStepV1

/-- Whether a step stores an entry for a call. -/
def StoresFor (step : CacheStepV1) (call : CapabilityCallV1) (entry : CachedExecuteResultV1) :
    Prop :=
  ∃ stored : CapabilityCallV1, stored.Same call ∧
    step = { now := entry.ts, event := .stores stored entry.status entry.body entry.ttlMs }

/-- Whether a step evicts what is stored for a call. -/
def Evicts (step : CacheStepV1) (call : CapabilityCallV1) : Prop :=
  match step.event with
  | .evicts platform identity capability => platform = call.platform ∧
      identityName identity = identityName call.identity ∧ capability = call.capability
  | .clears => True
  | _ => False

/-- An entry after a step was stored by it, or was there and is not evicted by it. -/
theorem apply_entry {cache : CapabilityCacheV1} {step : CacheStepV1} {call : CapabilityCallV1}
    {entry : CachedExecuteResultV1} (apart : call.ToldApart locale)
    (held : (cacheKey locale digest call, entry) ∈ step.apply locale digest cache) :
    step.StoresFor call entry ∨
      ((cacheKey locale digest call, entry) ∈ cache ∧ ¬ step.Evicts call) := by
  obtain ⟨now, event⟩ := step
  cases event with
  | asks asked ttlMs =>
    right
    refine ⟨?_, id⟩
    simp only [apply, getCachedOrExecute, CapabilityCacheV1.lookup] at held
    split at held
    · split at held
      · exact held
      · split at held
        · exact held
        · exact OrderedMap.mem_of_mem_delete held
    · exact held
  | stores stored status body ttlMs =>
    simp only [apply, CapabilityCacheV1.store] at held
    split at held
    · rcases OrderedMap.mem_of_mem_set held with same | before
      · left
        obtain ⟨key, rfl⟩ := Prod.mk.inj same
        exact ⟨stored, cacheKey_inj apart key.symm, rfl⟩
      · exact .inr ⟨before, id⟩
    · exact .inr ⟨held, id⟩
  | evicts platform identity capability =>
    right
    obtain ⟨before, kept⟩ := List.mem_filter.mp held
    refine ⟨before, ?_⟩
    rintro ⟨rfl, identities, rfl⟩
    -- The key of the call begins as every key that is dropped.
    simp only [identities, Bool.not_eq_true', cacheKey, CapabilityCallV1.names] at kept
    rw [← Bool.not_eq_true, List.isPrefixOf_iff_prefix] at kept
    exact kept (List.prefix_append _ _)
  | sweeps => exact .inr ⟨(List.mem_filter.mp held).1, id⟩
  | clears => exact absurd held List.not_mem_nil

end CacheStepV1

theorem cacheAfter_entry {history : List CacheStepV1} {entry : CachedExecuteResultV1}
    (apart : call.ToldApart locale)
    (held : (cacheKey locale digest call, entry) ∈ cacheAfter locale digest history) :
    ∃ before stored after, history = before ++ stored :: after ∧ stored.StoresFor call entry ∧
      ∀ step ∈ after, ¬ step.Evicts call := by
  -- The induction takes the last step off, which stored the entry or left it.
  induction history using List.reverseRecOn with
  | nil => exact absurd held List.not_mem_nil
  | append_singleton history step ih =>
    rw [cacheAfter, List.foldl_append] at held
    rcases CacheStepV1.apply_entry apart held with stores | ⟨earlier, kept⟩
    · exact ⟨history, step, [], rfl, stores, by simp⟩
    · obtain ⟨before, stored, after, rfl, stores, since⟩ := ih earlier
      refine ⟨before, stored, after ++ [step], by simp, stores, ?_⟩
      intro later member
      rcases List.mem_append.mp member with inside | last
      · exact since later inside
      · exact List.mem_singleton.mp last ▸ kept

/-- A call that is told apart is answered only with what was stored for an equal call, has not
expired and was not evicted since; and all equal calls share its entry. -/
theorem capabilityCache_transparent (locale : LocaleCompare) (digest : ArgsDigest)
    (history : List CacheStepV1) (call : CapabilityCallV1) (apart : call.ToldApart locale) :
    (∀ now ttlMs answer,
      (getCachedOrExecute locale digest (cacheAfter locale digest history) now call ttlMs).1
        = some answer →
      ∃ before stored after entry, history = before ++ stored :: after ∧
        stored.StoresFor call entry ∧ now - entry.ts < entry.ttlMs ∧
        (∀ step ∈ after, ¬ step.Evicts call) ∧
        answer = { status := entry.status, body := hitBody entry.body (now - entry.ts) }) ∧
    ∀ other : CapabilityCallV1, other.Same call →
      cacheKey locale digest other = cacheKey locale digest call := by
  constructor
  · intro now ttlMs answer answered
    simp only [getCachedOrExecute, CapabilityCacheV1.lookup] at answered
    split at answered
    · split at answered
      · cases answered
      · next entry found =>
        split at answered
        · next fresh =>
          cases answered
          obtain ⟨before, stored, after, split, stores, since⟩ :=
            cacheAfter_entry apart (OrderedMap.mem_of_get? found)
          exact ⟨before, stored, after, entry, split, stores, of_decide_eq_true fresh, since, rfl⟩
        · cases answered
    · cases answered
  · intro other same
    exact cacheKey_congr apart.2.2 same

/-- The order of texts by their code units. -/
def unitsCompare : LocaleCompare where
  notAfter := StrictJson.compareJsonKeys
  total left right := by
    simp only [Bool.or_eq_true, compareJsonKeys_iff]
    exact le_total _ _
  trans first second third := by
    simp only [compareJsonKeys_iff]
    exact le_trans

/-- A hexadecimal digit. -/
def hexUnitOf (value : Nat) : UInt16 := UInt16.ofNat (if value < 10 then 48 + value else 87 + value)

theorem hexUnitOf_inj {left right : Nat} (small : left < 16) (small' : right < 16)
    (same : hexUnitOf left = hexUnitOf right) : left = right := by
  have values := congrArg UInt16.toNat same
  simp only [hexUnitOf, UInt16.toNat_ofNat'] at values
  split_ifs at values <;> omega

/-- The digits of a byte. -/
def hexPairOf (byte : UInt8) : Units := [hexUnitOf (byte.toNat / 16), hexUnitOf (byte.toNat % 16)]

/-- The hexadecimal digits of bytes as their digest. -/
def plainDigest : ArgsDigest where
  hex bytes := bytes.flatMap hexPairOf
  digits bytes unit member := by
    obtain ⟨byte, -, inside⟩ := List.mem_flatMap.mp member
    have bound := byte.toNat_lt
    have digit : ∀ value < 16, isLowerHex (hexUnitOf value) = true := by decide
    simp only [hexPairOf, List.mem_cons, List.not_mem_nil, or_false] at inside
    rcases inside with rfl | rfl
    · exact digit _ (by omega)
    · exact digit _ (by omega)
  injective := by
    intro left right same
    induction left generalizing right with
    | nil =>
      cases right with
      | nil => rfl
      | cons byte rest => cases same
    | cons byte rest ih =>
      cases right with
      | nil => cases same
      | cons byte' rest' =>
        simp only [List.flatMap_cons, hexPairOf, List.cons_append, List.nil_append,
          List.cons.injEq] at same
        obtain ⟨high, low, rests⟩ := same
        have bound := byte.toNat_lt
        have bound' := byte'.toNat_lt
        have highs := hexUnitOf_inj (by omega) (by omega) high
        have lows := hexUnitOf_inj (by omega) (by omega) low
        have bytes : byte = byte' := UInt8.toNat_inj.mp (by omega)
        rw [bytes, ih rests]

/-- A search whose filter is an object. -/
def filteredCall (wanted : String) : CapabilityCallV1 where
  platform := ascii "acme"
  identity := none
  capability := ascii "search"
  args := [(ascii "filter", .object [(ascii "city", .string (ascii wanted))])]
  isJson := by simp [JsValue.IsJson, JsValue.entriesJson]

/-- A search without an object. -/
def plainCall : CapabilityCallV1 where
  platform := ascii "acme"
  identity := none
  capability := ascii "search"
  args := [(ascii "city", .string (ascii "Oslo"))]
  isJson := by simp [JsValue.IsJson, JsValue.entriesJson]

/-- A search for one city is answered with what was stored for another. -/
theorem capabilityCache_mixes : ¬ ∀ (history : List CacheStepV1) (call : CapabilityCallV1)
    (now ttlMs : Int) (answer : CachedAnswerV1),
    (getCachedOrExecute unitsCompare plainDigest
      (cacheAfter unitsCompare plainDigest history) now call ttlMs).1 = some answer →
    ∃ stored ∈ history, ∃ entry, stored.StoresFor call entry := by
  intro transparent
  have keys : cacheKey unitsCompare plainDigest (filteredCall "Rome")
      = cacheKey unitsCompare plainDigest (filteredCall "Oslo") := by decide +kernel
  obtain ⟨stored, member, entry, other, same, rfl⟩ := transparent
    [{ now := 0, event := .stores (filteredCall "Oslo") 200 .null 1000 }] (filteredCall "Rome") 10 1000
    { status := 200, body := .null } (by
      simp [cacheAfter, CacheStepV1.apply, CapabilityCacheV1.store, isCacheable, getCachedOrExecute,
        CapabilityCacheV1.lookup, keys, OrderedMap.set, OrderedMap.get?,
        CapabilityCacheV1.isFresh, hitBody])
  simp only [List.mem_singleton, CacheStepV1.mk.injEq, CacheEventV1.stores.injEq] at member
  obtain ⟨-, rfl, -⟩ := member
  -- The arguments differ in the city, so no order of keys makes them equal.
  have args := same.2.2.2
  simp only [filteredCall, JsValue.Same, JsValue.normal, JsValue.normalEntries,
    StrictJson.sortEntries,
    List.insertionSort, List.foldr, List.orderedInsert] at args
  have cities : ascii "Oslo" ≠ ascii "Rome" := by decide
  simp [cities] at args

/-- A search that was stored is answered with what was stored for it. -/
theorem capabilityCache_transparent_stored :
    ∃ before stored after entry,
      [({ now := 0, event := .stores plainCall 200 .null 1000 } : CacheStepV1)]
        = before ++ stored :: after ∧ stored.StoresFor plainCall entry ∧
      10 - entry.ts < entry.ttlMs ∧ (∀ step ∈ after, ¬ step.Evicts plainCall) ∧
      ({ status := 200, body := .null } : CachedAnswerV1)
        = { status := entry.status, body := hitBody entry.body (10 - entry.ts) } := by
  have apart : plainCall.ToldApart unitsCompare := by
    refine ⟨by unfold CapabilityCallV1.NamesApart; decide +kernel, by simp [plainCall, JsValue.isFlat],
      ?_⟩
    intro left member right member' _ _
    simp only [plainCall, List.map_cons, List.map_nil, List.mem_singleton] at member member'
    rw [member, member']
  exact (capabilityCache_transparent unitsCompare plainDigest _ plainCall apart).1 10 1000 _ (by
    simp [cacheAfter, CacheStepV1.apply, CapabilityCacheV1.store, isCacheable, getCachedOrExecute,
      CapabilityCacheV1.lookup, OrderedMap.set, OrderedMap.get?, CapabilityCacheV1.isFresh, hitBody])

end Klura
