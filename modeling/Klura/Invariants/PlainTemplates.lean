import Klura.Execution.Request

/-! A template without placeholders and secrets is resolved to itself, whatever the arguments. -/

namespace Klura

open StrictJson

/-- A text with no placeholder and no start of a reference to a secret. -/
structure Plain (text : Units) : Prop where
  refs : collectInlinePlaceholderRefs text = []
  secrets : includes text SECRET_MARKER = false

instance (text : Units) : Decidable (Plain text) :=
  decidable_of_iff (collectInlinePlaceholderRefs text = [] ∧ includes text SECRET_MARKER = false)
    ⟨fun both => ⟨both.1, both.2⟩, fun plain => ⟨plain.refs, plain.secrets⟩⟩

theorem isPathUnit_opening : isPathUnit 123 = false := by decide

theorem isPathUnit_closing : isPathUnit 125 = false := by decide

theorem isPathUnit_plain {unit : UInt16} (valid : isPathUnit unit = true) : writtenPlainly unit := by
  have each : ∀ code < 128, isPathUnit (UInt16.ofNat code) = true →
      writtenPlainly (UInt16.ofNat code) := by decide
  by_cases small : unit.toNat < 128
  · have same := each unit.toNat small
    rw [UInt16.ofNat_toNat] at same
    exact same valid
  · -- Only ASCII letters, digits, underscores and dots stand in paths.
    simp only [isPathUnit, isWordUnit, Bool.or_eq_true, decide_eq_true_eq, beq_iff_eq] at valid
    rcases valid with (((digit | upper) | underscore) | lower) | dot
    · omega
    · omega
    · omega
    · omega
    · rw [dot] at small
      exact absurd (by decide) small

theorem token_plain {name : Units} (valid : ∀ unit ∈ name, isPathUnit unit = true) :
    ∀ unit ∈ token name, writtenPlainly unit := by
  intro unit member
  simp only [token, List.mem_cons, List.mem_append, List.not_mem_nil, or_false] at member
  rcases member with rfl | rfl | inside | rfl | rfl
  · decide
  · decide
  · exact isPathUnit_plain (valid unit inside)
  · decide
  · decide

theorem Plain.part {part text : Units} (plain : Plain text) (inside : part <:+: text) :
    Plain part where
  refs := tokenNames_part isPathUnit_closing inside plain.refs
  secrets := by
    rw [← Bool.not_eq_true, includes_iff]
    intro occurs
    have whole := includes_iff.mpr (occurs.trans inside)
    rw [plain.secrets] at whole
    cases whole

theorem Plain.quoted {own text : Units} (plain : Plain text)
    (inside : StrictJson.stringText own <:+: text) :
    Plain own where
  refs := by
    rw [collectInlinePlaceholderRefs, tokenNames_eq_nil isPathUnit_closing]
    intro name inhabited valid occurs
    have written := stringText_part (token_plain valid) (List.cons_ne_nil _ _) occurs
    have clear := (tokenNames_eq_nil isPathUnit_closing).mp plain.refs
    exact clear name inhabited valid (written.trans inside)
  secrets := by
    rw [← Bool.not_eq_true, includes_iff]
    intro occurs
    have marker : ∀ unit ∈ SECRET_MARKER, writtenPlainly unit := forall_of_all (by decide)
    have written := stringText_part marker (by decide) occurs
    have whole := includes_iff.mpr (written.trans inside)
    rw [plain.secrets] at whole
    cases whole

section Resolution

variable (world : ResolveWorld) (args : CallArgs)

variable {text : Units}

theorem interpolateVars_plain (plain : Plain text) (encoding : TemplateEncoding) :
    interpolateVars world text args encoding = .ok text := by
  have kept : replacePlaceholders text (fun path =>
      (placeholderText world args encoding path).getD []) = text :=
    Pattern.replaceAll_clear ((found_token _).mpr plain.refs)
  simp [interpolateVars, plain.refs, kept]

theorem secretReference_none (clear : includes text SECRET_MARKER = false) :
    ∀ back, back <:+ text → secretReference back = none := by
  intro back suffix
  have apart : ¬ SECRET_MARKER <+: back := by
    intro start
    have whole := includes_iff.mpr (start.isInfix.trans suffix.isInfix)
    rw [clear] at whole
    cases whole
  simp [secretReference, apart]

theorem resolveSecrets_plain (clear : includes text SECRET_MARKER = false) :
    resolveSecrets world text = .ok text := by
  have every := secretReference_none clear
  have none_there : secretReferences text = [] := by
    rw [secretReferences, List.filterMap_eq_nil_iff]
    intro back member
    exact every back ((List.mem_tails _ _).mp member)
  have kept : (secretPattern world).replaceAll text = text := by
    apply Pattern.replaceAll_clear
    rw [Pattern.found_eq_false]
    intro back suffix
    simp [secretPattern, every back suffix]
  simp [resolveSecrets, none_there, kept]

theorem assertNoUnresolved_plain (plain : Plain text) (field : Units) :
    assertNoUnresolvedPlaceholders world text field = .ok () := by
  simp [assertNoUnresolvedPlaceholders, plain.refs]

theorem exactPlaceholder_plain (plain : Plain text) :
    exactPlaceholder text = none := by
  simp [exactPlaceholder, plain.refs]

/-- A URL template without placeholders of either style and without a query. -/
structure PlainUrl (text : Units) : Prop where
  plain : Plain text
  colons : normalizeUrlColonPlaceholders text = text
  query : 63 ∉ text

theorem resolveUrlTemplate_plain (url : PlainUrl text) (field : Units) :
    resolveUrlTemplate world text args field = .ok text := by
  have before : text.takeWhile (· != 63) = text := by
    rw [List.takeWhile_eq_self_iff]
    intro unit member
    simp only [bne_iff_ne]
    rintro rfl
    exact url.query member
  have behind : text.dropWhile (· != 63) = [] := by
    rw [List.dropWhile_eq_nil_iff]
    intro unit member
    simp only [bne_iff_ne]
    rintro rfl
    exact url.query member
  have nothing : resolveQueryString world [] args = .ok [] := by simp [resolveQueryString]
  simp [resolveUrlTemplate, renderUrlTemplate, url.colons, exactValue,
    exactPlaceholder_plain url.plain, before, behind, nothing, interpolateVars_plain world args
      url.plain, resolveSecrets_plain world url.plain.secrets,
    assertNoUnresolved_plain world url.plain, bind, Except.bind, pure, Except.pure]

theorem resolveString_plain (plain : Plain text) :
    resolveString world args text = .ok (.string text) := by
  simp [resolveString, exactPlaceholder_plain plain, interpolateVars_plain world args plain,
    resolveSecrets_plain world plain.secrets, bind, Except.bind, pure, Except.pure]

mutual

theorem resolveValue_plain (value : JsValue) (plain : ∀ text ∈ stringsOf value, Plain text) :
    resolveValue world args value = .ok value := by
  cases value with
  | null | boolean _ | number _ => rfl
  | string text => exact resolveString_plain world args (plain text (by simp [stringsOf]))
  | array items =>
    have kept := resolveItems_plain items plain
    simp [resolveValue, kept, bind, Except.bind, pure, Except.pure]
  | object entries =>
    have kept := resolveEntries_plain entries plain
    simp [resolveValue, kept, bind, Except.bind, pure, Except.pure]

theorem resolveItems_plain (items : List JsValue) (plain : ∀ text ∈ itemStrings items, Plain text) :
    resolveItems world args items = .ok items := by
  cases items with
  | nil => rfl
  | cons item rest =>
    have first := resolveValue_plain item fun text member =>
      plain text (List.mem_append_left _ member)
    have others := resolveItems_plain rest fun text member =>
      plain text (List.mem_append_right _ member)
    simp [resolveItems, first, others, bind, Except.bind]

theorem resolveEntries_plain (entries : List (Units × JsValue))
    (plain : ∀ text ∈ entryStrings entries, Plain text) :
    resolveEntries world args entries = .ok entries := by
  cases entries with
  | nil => rfl
  | cons entry rest =>
    have first := resolveValue_plain entry.2 fun text member =>
      plain text (List.mem_append_left _ member)
    have others := resolveEntries_plain rest fun text member =>
      plain text (List.mem_append_right _ member)
    simp [resolveEntries, first, others, bind, Except.bind]

end

mutual

/-- The keys that a value has at any depth. -/
def keysWithin : JsValue → List Units
  | .array items => itemKeys items
  | .object entries => entryKeys entries
  | _ => []

/-- The keys within an array's values. -/
def itemKeys : List JsValue → List Units
  | [] => []
  | item :: rest => keysWithin item ++ itemKeys rest

/-- The keys within an object's members. -/
def entryKeys : List (Units × JsValue) → List Units
  | [] => []
  | (key, value) :: rest => key :: (keysWithin value ++ entryKeys rest)

end

mutual

theorem prune_kept (value : JsValue) (own : ascii "__proto__" ∉ keysWithin value) :
    pruneOmittedOptionalValues value = value := by
  cases value with
  | null | boolean _ | number _ | string _ => rfl
  | array items => rw [pruneOmittedOptionalValues, pruneItems_kept items own]
  | object entries => rw [pruneOmittedOptionalValues, pruneEntries_kept entries own]

theorem pruneItems_kept (items : List JsValue) (own : ascii "__proto__" ∉ itemKeys items) :
    pruneItems items = items := by
  cases items with
  | nil => rfl
  | cons item rest =>
    simp only [itemKeys, List.mem_append, not_or] at own
    rw [pruneItems, prune_kept item own.1, pruneItems_kept rest own.2]

theorem pruneEntries_kept (entries : List (Units × JsValue))
    (own : ascii "__proto__" ∉ entryKeys entries) : pruneEntries entries = entries := by
  cases entries with
  | nil => rfl
  | cons entry rest =>
    obtain ⟨key, value⟩ := entry
    simp only [entryKeys, List.mem_cons, List.mem_append, not_or] at own
    rw [pruneEntries, if_neg (Ne.symm own.1), prune_kept value own.2.1,
      pruneEntries_kept rest own.2.2]

end

/-- A body whose JSON text is plain and that has no key of prototypes. -/
structure PlainBody (entries : List (Units × JsValue)) : Prop where
  text : Plain (jsonStringify (.object entries))
  own : ascii "__proto__" ∉ entryKeys entries

theorem resolveBody_plain {entries : List (Units × JsValue)} (body : PlainBody entries) :
    resolveBody world entries args = .ok entries := by
  have strings : ∀ text ∈ entryStrings entries, Plain text := by
    intro text member
    exact body.text.quoted (stringsOf_part (.object entries) member)
  simp [resolveBody, pruneEntries_kept entries body.own, resolveEntries_plain world args entries
    strings, assertNoUnresolved_plain world body.text, bind, Except.bind]

theorem resolveHeaders_plain {headers : List (Units × Units)}
    (plain : ∀ header ∈ headers, Plain header.2) :
    resolveHeaders world headers args = .ok headers := by
  induction headers with
  | nil => rfl
  | cons header rest ih =>
    have here := plain header List.mem_cons_self
    have later := ih fun other member => plain other (List.mem_cons_of_mem _ member)
    rw [resolveHeaders] at later ⊢
    rw [List.mapM_cons, later]
    simp [interpolateVars_plain world args here, resolveSecrets_plain world here.secrets,
      assertNoUnresolved_plain world here, bind, Except.bind, pure, Except.pure]

end Resolution

end Klura
