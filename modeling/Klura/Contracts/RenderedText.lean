import Klura.Contracts.CanonicalBytes
import Klura.Library.Check

/-! What is rendered at all nests within the depth limit, and its text holds no control characters. -/

namespace Klura

/-- Whether a text holds no control characters. -/
def PrintedUnits (text : Units) : Prop := ∀ unit ∈ text, 32 ≤ unit.toNat

instance (text : Units) : Decidable (PrintedUnits text) :=
  List.decidableBAll _ text

namespace PrintedUnits

theorem nil : PrintedUnits [] := fun _ member => absurd member List.not_mem_nil

theorem cons {unit : UInt16} {text : Units} (large : 32 ≤ unit.toNat) (rest : PrintedUnits text) :
    PrintedUnits (unit :: text) := List.forall_mem_cons.mpr ⟨large, rest⟩

theorem append {front back : Units} (first : PrintedUnits front) (second : PrintedUnits back) :
    PrintedUnits (front ++ back) := List.forall_mem_append.mpr ⟨first, second⟩

theorem no_break {text : Units} (printed : PrintedUnits text) : 10 ∉ text :=
  fun member => absurd (printed 10 member) (by decide)

theorem digits (row : List Digit) : PrintedUnits (digitsText row) := by
  intro unit member
  obtain ⟨digit, -, rfl⟩ := List.mem_map.mp member
  have bound := digit.isLt
  rw [Digit.unit, UInt16.toNat_ofNat']
  omega

theorem numeral (numeral : Numeral) : PrintedUnits numeral.text := by
  have fraction : PrintedUnits numeral.fractionText := by
    unfold Numeral.fractionText
    split
    · exact nil
    · exact cons (by decide) (digits _)
  have exponent : PrintedUnits numeral.exponentText := by
    unfold Numeral.exponentText
    split
    · exact nil
    · rename_i part _
      unfold ExponentPart.text
      apply cons
      · split <;> decide
      · refine append ?_ (digits _)
        split
        · exact nil
        · split <;> exact cons (by decide) nil
  unfold Numeral.text
  refine append ?_ (append (digits _) (append fraction exponent))
  split
  · exact cons (by decide) nil
  · exact nil

theorem string (pieces : StringSyntax) : PrintedUnits pieces.text := by
  have hex (digit : HexDigit) : 32 ≤ digit.unit.toNat := by
    have bound := digit.value.isLt
    unfold HexDigit.unit
    split
    · rw [UInt16.toNat_ofNat']
      omega
    · rw [UInt16.toNat_ofNat']
      split <;> omega
  have piece (piece : Piece) : PrintedUnits piece.text := by
    cases piece with
    | plain unit allowed =>
      simp only [isPlain, Bool.and_eq_true, decide_eq_true_eq] at allowed
      exact cons allowed.1.1 nil
    | short escape => cases escape <;> exact cons (by decide) (cons (by decide) nil)
    | hex first second third fourth =>
      exact cons (by decide) (cons (by decide) (cons (hex _) (cons (hex _)
        (cons (hex _) (cons (hex _) nil)))))
  refine cons (by decide) (append ?_ (cons (by decide) nil))
  intro unit member
  obtain ⟨own, -, inside⟩ := List.mem_flatMap.mp member
  exact piece own unit inside

end PrintedUnits

namespace StrictJson

variable {texts : List Units}

theorem joinComma_printed (printed : ∀ text ∈ texts, PrintedUnits text) :
    PrintedUnits (joinComma texts) := by
  induction texts with
  | nil => exact nofun
  | cons first rest ih =>
    have later := ih fun text member => printed text (by simp [member])
    have begins := printed first (by simp)
    cases rest with
    | nil => exact begins
    | cons second rest => exact begins.append (.cons (by decide) later)

theorem syntaxOf_printed (value : JsValue) : PrintedUnits (syntaxOf value).text := by
  induction value using JsValue.inductionOn with
  | null => exact forall_of_all (by decide)
  | boolean value => cases value <;> exact forall_of_all (by decide)
  | number value =>
    cases value with
    | finite negative magnitude => exact .numeral _
    | infinite negative => cases negative <;> exact forall_of_all (by decide)
  | string text => exact .string _
  | array items ih =>
    rw [syntaxOf_array, arraySyntax_text]
    refine .cons (by decide) (.append (joinComma_printed ?_) (.cons (by decide) nofun))
    simpa using ih
  | object entries ih =>
    rw [syntaxOf_objectText]
    refine .cons (by decide) (.append (joinComma_printed ?_) (.cons (by decide) nofun))
    intro text member
    obtain ⟨entry, inside, rfl⟩ := List.mem_map.mp member
    obtain ⟨source, given, rfl⟩ := List.mem_map.mp ((sortEntries_perm _).mem_iff.mp inside)
    exact (PrintedUnits.string _).append (.cons (by decide) (ih source given))

theorem mapM_member {α : Type} {render : α → Except PublicContractError Units} {parts : List α}
    (rendered : parts.mapM render = .ok texts) {part : α} (member : part ∈ parts) :
    ∃ text, render part = .ok text := by
  induction parts generalizing texts with
  | nil => cases member
  | cons first rest ih =>
    rw [List.mapM_cons] at rendered
    obtain ⟨own, begins, others⟩ := Klura.bind_ok.mp rendered
    obtain ⟨later, rests, -⟩ := Klura.bind_ok.mp others
    rcases List.mem_cons.mp member with rfl | inside
    · exact ⟨own, begins⟩
    · exact ih rests inside

variable {value : JsValue}

/-- A value that is rendered at a depth nests within the depth limit. -/
theorem renderJson_depth {field : Units} {depth : Nat} {text : Units}
    (rendered : renderJson value field depth = .ok text) : value.depth + depth ≤ 100 := by
  induction value using JsValue.inductionOn generalizing field depth text with
  | array items ih =>
    rw [renderJson] at rendered
    split at rendered
    · cases rendered
    rename_i within
    obtain ⟨texts, parts, -⟩ := Klura.bind_ok.mp rendered
    have each : ∀ (rest : List JsValue) (index : Nat) (texts : List Units),
        renderItems rest field index (depth + 1) = .ok texts → (∀ item ∈ rest, item ∈ items) →
        ∀ item ∈ rest, item.depth + (depth + 1) ≤ 100 := by
      intro rest
      induction rest with
      | nil => exact fun _ _ _ _ _ member => absurd member List.not_mem_nil
      | cons first rest tail =>
        intro index texts parts inside item member
        rw [renderItems] at parts
        obtain ⟨own, begins, others⟩ := Klura.bind_ok.mp parts
        obtain ⟨later, rests, -⟩ := Klura.bind_ok.mp others
        rcases List.mem_cons.mp member with rfl | behind
        · exact ih item (inside item (by simp)) begins
        · exact tail _ _ rests (fun other among => inside other (by simp [among])) item behind
    have bound := (JsValue.depth_array items (100 - depth)).mpr fun item member => by
      have own := each items 0 texts parts (fun _ member => member) item member
      omega
    omega
  | object entries ih =>
    rw [renderJson] at rendered
    split at rendered
    · cases rendered
    rename_i within
    obtain ⟨texts, parts, -⟩ := Klura.bind_ok.mp rendered
    have rows : ∀ rest : List (Units × JsValue), renderEntries rest field (depth + 1) =
        rest.map fun entry => (entry.1,
          renderJson entry.2 (field ++ ascii "." ++ entry.1) (depth + 1)) := by
      intro rest
      induction rest with
      | nil => rfl
      | cons entry rest tail => rw [renderEntries, tail, List.map_cons]
    have bound := (JsValue.depth_object entries (100 - depth)).mpr fun entry member => by
      -- Every entry is among the sorted ones.
      have among := (sortEntries_perm (renderEntries entries field (depth + 1))).mem_iff.mpr
        (by rw [rows]; exact List.mem_map_of_mem member)
      obtain ⟨own, begins⟩ := mapM_member parts among
      obtain ⟨inner, value, -⟩ := Klura.map_ok.mp begins
      have deep := ih entry member value
      omega
    omega
  | null | boolean value | number value | string text =>
    rw [renderJson.eq_def] at rendered
    dsimp only at rendered
    split at rendered
    · cases rendered
    rename_i within
    simp only [JsValue.depth]
    omega

theorem canonicalJson_text (json : value.IsJson) {text : Units}
    (rendered : canonicalJson value = .ok text) : text = (syntaxOf value).text := by
  have shallow : value.depth + 0 ≤ 100 := renderJson_depth rendered
  rw [canonicalJson_eq json (by omega)] at rendered
  exact (Except.ok.inj rendered).symm

theorem ownEntries_mem {members : List (Units × JsValue)} {entry : Units × JsValue}
    (own : entry ∈ ownEntries members) : entry ∈ members := by
  have assigned : ∀ (rest front : List (Units × JsValue)),
      entry ∈ rest.foldl (fun entries member => OrderedMap.set entries member.1 member.2) front →
      entry ∈ front ∨ entry ∈ rest := by
    intro rest
    induction rest with
    | nil => exact fun _ inside => .inl inside
    | cons member rest ih =>
      intro front inside
      rcases ih _ inside with early | late
      · rcases OrderedMap.mem_of_mem_set early with same | given
        · exact .inr (by simp [same])
        · exact .inl given
      · exact .inr (List.mem_cons_of_mem _ late)
  have inside : entry ∈ members.foldl
      (fun entries member => OrderedMap.set entries member.1 member.2) [] := by
    unfold ownEntries at own
    rcases List.mem_append.mp own with index | other
    · exact (List.mem_filter.mp ((List.perm_insertionSort _ _).mem_iff.mp index)).1
    · exact (List.mem_filter.mp other).1
  exact (assigned members [] inside).resolve_left List.not_mem_nil

mutual

theorem syntax_depth (written : JsonSyntax) : written.value.depth ≤ written.depth := by
  cases written with
  | null | boolean | number | string | emptyArray | emptyObject => exact Nat.zero_le _
  | array items =>
    rw [JsonSyntax.value, JsonSyntax.depth, JsValue.depth_array]
    exact fun item member => Nat.lt_succ_of_le (items_depth items item member)
  | object members =>
    rw [JsonSyntax.value, JsonSyntax.depth, JsValue.depth_object]
    exact fun entry member => Nat.lt_succ_of_le (members_depth members entry (ownEntries_mem member))

theorem items_depth (written : ItemsSyntax) :
    ∀ item ∈ written.values, item.depth ≤ written.depth := by
  intro item member
  cases written with
  | last _ only _ =>
    rw [ItemsSyntax.values, List.mem_singleton] at member
    rw [member]
    exact syntax_depth only
  | more _ first _ rest =>
    rcases List.mem_cons.mp member with rfl | later
    · exact (syntax_depth first).trans (Nat.le_max_left _ _)
    · exact (items_depth rest item later).trans (Nat.le_max_right _ _)

theorem members_depth (written : MembersSyntax) :
    ∀ entry ∈ written.entries, entry.2.depth ≤ written.depth := by
  intro entry member
  cases written with
  | last _ key _ _ only _ =>
    rw [MembersSyntax.entries, List.mem_singleton] at member
    rw [member]
    exact syntax_depth only
  | more _ key _ _ first _ rest =>
    rcases List.mem_cons.mp member with rfl | later
    · exact (syntax_depth first).trans (Nat.le_max_left _ _)
    · exact (members_depth rest entry later).trans (Nat.le_max_right _ _)

end

theorem parseStrictJson_depth {read : JsValue} (json : value.IsJson) {field : Units}
    {maximumDepth maximumBytes : Nat}
    (reads : parseStrictJson field maximumDepth (syntaxOf value).text maximumBytes = .ok read) :
    value.depth ≤ maximumDepth := by
  obtain ⟨small, written, text, shallow, distinct, rfl⟩ := (parseStrictJson_iff _ _ _).mp reads
  -- A reader that accepts any depth reads one value from the text.
  have limit := Nat.le_max_left written.value.depth value.depth
  have first := (@parseStrictJson_iff field _ (syntaxOf value).text maximumBytes _).mpr
    ⟨small, written, text, limit, distinct, rfl⟩
  have second := parseStrictJson_canonical json (Nat.le_max_right written.value.depth value.depth)
    field small
  rw [first] at second
  have one : written.value.value = (syntaxOf value).value := Except.ok.inj second
  have same : value.Same written.value.value := by
    rw [one]
    exact (syntaxOf_value json).symm
  exact (same.depth_le (syntax_depth written.value)).trans shallow

end StrictJson

end Klura
