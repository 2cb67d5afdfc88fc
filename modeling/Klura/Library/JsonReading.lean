import Klura.Library.JsonReader

/-! The reader of JSON texts accepts a text exactly when the grammar writes it. -/

namespace Klura

/-- A text that does not start with a blank. -/
def Solid (text : Units) : Prop := ∀ unit ∈ text.head?, isBlank unit = false

theorem isBlank_unit (blank : BlankUnit) : isBlank blank.unit = true := by
  cases blank <;> rfl

variable {rest : Units}

/-- Blanks are skipped up to a text that starts with none. -/
theorem skipBlank_text (blank : Blank) (solid : Solid rest) :
    skipBlank (blank.text ++ rest) = rest := by
  induction blank with
  | nil =>
    cases rest with
    | nil => rfl
    | cons unit rest => simp [Blank.text, skipBlank, solid unit rfl]
  | cons unit blank ih =>
    simp only [Blank.text, List.map_cons, List.cons_append, skipBlank] at ih ⊢
    rw [List.dropWhile_cons_of_pos (isBlank_unit unit), ih]

/-- What is skipped of a text is a row of blanks. -/
theorem skipBlank_split (text : Units) :
    ∃ blank : Blank, text = blank.text ++ skipBlank text := by
  induction text with
  | nil => exact ⟨[], rfl⟩
  | cons unit rest ih =>
    by_cases blank : isBlank unit = true
    · obtain ⟨row, split⟩ := ih
      have named : ∃ kind : BlankUnit, unit = kind.unit := by
        simp only [isBlank, Bool.or_eq_true, beq_iff_eq] at blank
        rcases blank with ((space | tab) | feed) | carriage
        · exact ⟨.space, space⟩
        · exact ⟨.tab, tab⟩
        · exact ⟨.lineFeed, feed⟩
        · exact ⟨.carriageReturn, carriage⟩
      obtain ⟨kind, rfl⟩ := named
      refine ⟨kind :: row, ?_⟩
      rw [skipBlank, List.dropWhile_cons_of_pos blank, Blank.text, List.map_cons, List.cons_append]
      exact congrArg _ split
    · exact ⟨[], by rw [skipBlank, List.dropWhile_cons_of_neg blank]; rfl⟩

/-- A code unit that is a visible ASCII character. -/
def isVisible (unit : UInt16) : Bool := decide (32 < unit.toNat ∧ unit.toNat < 127)

theorem isBlank_visible {unit : UInt16} (visible : isVisible unit = true) : isBlank unit = false := by
  by_contra blank
  rw [Bool.not_eq_false] at blank
  simp only [isBlank, Bool.or_eq_true, beq_iff_eq] at blank
  rcases blank with ((rfl | rfl) | rfl) | rfl <;> cases visible

/-- The text of a value starts with a visible character that closes nothing. -/
theorem JsonSyntax.text_starts (value : JsonSyntax) :
    ∃ first tail, value.text = first :: tail ∧ isVisible first = true ∧ first ≠ 93 ∧ first ≠ 125 := by
  have digits : ∀ digit : Digit, isVisible digit.unit = true ∧ digit.unit ≠ 93 ∧ digit.unit ≠ 125 := by
    decide
  cases value with
  | null => exact ⟨110, _, rfl, by decide⟩
  | boolean value =>
    cases value
    · exact ⟨102, _, rfl, by decide⟩
    · exact ⟨116, _, rfl, by decide⟩
  | number numeral =>
    obtain ⟨negative, whole, fraction, exponent⟩ := numeral
    cases negative with
    | true => exact ⟨45, _, rfl, by decide⟩
    | false =>
      cases whole with
      | zero => exact ⟨48, _, rfl, by decide⟩
      | digits first row => exact ⟨Digit.unit first.succ, _, rfl, digits first.succ⟩
  | string pieces => exact ⟨34, _, rfl, by decide⟩
  | emptyArray inside => exact ⟨91, _, rfl, by decide⟩
  | array items => exact ⟨91, _, rfl, by decide⟩
  | emptyObject inside => exact ⟨123, _, rfl, by decide⟩
  | object members => exact ⟨123, _, rfl, by decide⟩

theorem JsonSyntax.text_solid (value : JsonSyntax) (rest : Units) : Solid (value.text ++ rest) := by
  obtain ⟨first, tail, text, visible, -⟩ := value.text_starts
  rw [text]
  intro unit head
  cases head
  exact isBlank_visible visible

theorem JsonSyntax.text_pos (value : JsonSyntax) : 0 < value.text.length := by
  obtain ⟨first, tail, text, -⟩ := value.text_starts
  rw [text]
  exact Nat.succ_pos _

/-- A comma or a closing mark behind blanks ends a number. -/
theorem endsNumeral_mark (blank : Blank) {mark : UInt16}
    (ending : mark = 44 ∨ mark = 93 ∨ mark = 125) (rest : Units) :
    EndsNumeral (blank.text ++ mark :: rest) := by
  intro unit head
  cases blank with
  | nil =>
    cases head
    rcases ending with rfl | rfl | rfl <;> decide
  | cons first row =>
    cases head
    cases first <;> decide

/-- Blanks up to the end of the text end a number. -/
theorem endsNumeral_end (blank : Blank) : EndsNumeral blank.text := by
  intro unit head
  cases blank with
  | nil => cases head
  | cons first row =>
    cases head
    cases first <;> decide

theorem solid_mark {mark : UInt16} (ending : mark = 44 ∨ mark = 93 ∨ mark = 125 ∨ mark = 58)
    (rest : Units) : Solid (mark :: rest) := by
  intro unit head
  cases head
  rcases ending with rfl | rfl | rfl | rfl <;> decide

/-- The text of a number starts with none of the literals. -/
theorem readScalar_number (numeral : Numeral) (ends : EndsNumeral rest) :
    readScalar (numeral.text ++ rest) = some (.number numeral.value, rest) := by
  have digits : ∀ digit : Digit, digit.unit ≠ 110 ∧ digit.unit ≠ 116 ∧ digit.unit ≠ 102 := by
    decide
  have starts : ∃ first tail, numeral.text ++ rest = first :: tail
      ∧ first ≠ 110 ∧ first ≠ 116 ∧ first ≠ 102 := by
    unfold Numeral.text
    cases numeral.negative with
    | true => exact ⟨45, _, rfl, by decide⟩
    | false =>
      cases numeral.whole with
      | zero => exact ⟨48, _, rfl, by decide⟩
      | digits first row => exact ⟨Digit.unit first.succ, _, rfl, digits first.succ⟩
  obtain ⟨first, tail, text, notNull, notTrue, notFalse⟩ := starts
  have read := readNumeral_text numeral ends
  rw [text] at read ⊢
  unfold readScalar
  simp [JsonSyntax.text, List.isPrefixOf, notNull.symm, notTrue.symm, notFalse.symm, read]

/-- The values of an array before a further blank. -/
def ItemsSyntax.indent (blank : Blank) : ItemsSyntax → ItemsSyntax
  | .last before item after => .last (blank ++ before) item after
  | .more before item after rest => .more (blank ++ before) item after rest

/-- The members of an object before a further blank. -/
def MembersSyntax.indent (blank : Blank) : MembersSyntax → MembersSyntax
  | .last before key colon between value after => .last (blank ++ before) key colon between value after
  | .more before key colon between value after rest =>
    .more (blank ++ before) key colon between value after rest

theorem ItemsSyntax.indent_text (blank : Blank) (items : ItemsSyntax) :
    (items.indent blank).text = blank.text ++ items.text := by
  cases items <;> simp [ItemsSyntax.indent, ItemsSyntax.text, Blank.text]

theorem MembersSyntax.indent_text (blank : Blank) (members : MembersSyntax) :
    (members.indent blank).text = blank.text ++ members.text := by
  cases members <;> simp [MembersSyntax.indent, MembersSyntax.text, Blank.text]

theorem ItemsSyntax.indent_values (blank : Blank) (items : ItemsSyntax) :
    (items.indent blank).values = items.values := by
  cases items <;> rfl

theorem MembersSyntax.indent_entries (blank : Blank) (members : MembersSyntax) :
    (members.indent blank).entries = members.entries := by
  cases members <;> rfl

/-- The text of an array's values starts with no blank but its first one, and closes nothing. -/
theorem ItemsSyntax.skip_head (items : ItemsSyntax) (rest : Units) :
    (skipBlank (items.text ++ rest)).head? ≠ some 93 := by
  have starts : ∀ (before : Blank) (item : JsonSyntax) (tail : Units),
      (skipBlank (before.text ++ (item.text ++ tail))).head? ≠ some 93 := by
    intro before item tail
    rw [skipBlank_text before (item.text_solid tail)]
    obtain ⟨first, after, text, -, unclosed, -⟩ := item.text_starts
    simp [text, unclosed]
  cases items with
  | last before item after =>
    simp only [ItemsSyntax.text, List.append_assoc]
    exact starts before item _
  | more before item after others =>
    simp only [ItemsSyntax.text, List.append_assoc]
    exact starts before item _

/-- The text of an object's members starts with no blank but its first one, and closes nothing. -/
theorem MembersSyntax.skip_head (members : MembersSyntax) (rest : Units) :
    (skipBlank (members.text ++ rest)).head? ≠ some 125 := by
  have starts : ∀ (before : Blank) (key : StringSyntax) (tail : Units),
      (skipBlank (before.text ++ (key.text ++ tail))).head? ≠ some 125 := by
    intro before key tail
    rw [skipBlank_text before (by intro unit head; cases head; rfl)]
    simp [StringSyntax.text]
  cases members with
  | last before key colon between value after =>
    simp only [MembersSyntax.text, List.append_assoc]
    exact starts before key _
  | more before key colon between value after others =>
    simp only [MembersSyntax.text, List.append_assoc]
    exact starts before key _

mutual

/-- A value is read back before whatever ends a number. -/
theorem readValue_text (value : JsonSyntax) (fuel : Nat) (rest : Units)
    (enough : value.text.length ≤ fuel) (ends : EndsNumeral rest) :
    readValue fuel (value.text ++ rest) = some (value.value, rest) := by
  have nonempty := value.text_pos
  obtain ⟨less, rfl⟩ : ∃ less, fuel = less + 1 := ⟨fuel - 1, by omega⟩
  match value with
  | .null => rfl
  | .boolean true => rfl
  | .boolean false => rfl
  | .number numeral =>
    have scalar := readScalar_number numeral ends
    have digits : ∀ digit : Digit, digit.unit ≠ 34 ∧ digit.unit ≠ 91 ∧ digit.unit ≠ 123 := by
      decide
    have starts : ∃ first tail, numeral.text = first :: tail
        ∧ first ≠ 34 ∧ first ≠ 91 ∧ first ≠ 123 := by
      unfold Numeral.text
      cases numeral.negative with
      | true => exact ⟨45, _, rfl, by decide⟩
      | false =>
        cases numeral.whole with
        | zero => exact ⟨48, _, rfl, by decide⟩
        | digits first row => exact ⟨Digit.unit first.succ, _, rfl, digits first.succ⟩
    obtain ⟨first, tail, text, notString, notArray, notObject⟩ := starts
    simp only [JsonSyntax.text, JsonSyntax.value]
    rw [text, List.cons_append] at scalar ⊢
    simp only [readValue, notString, notArray, notObject, if_false]
    exact scalar
  | .string pieces =>
    simp only [JsonSyntax.text, StringSyntax.text, JsonSyntax.value, List.cons_append,
      List.append_assoc, List.nil_append]
    simp only [readValue, if_true, readString_text, Option.map_some]
  | .emptyArray inside =>
    have skipped : skipBlank (inside.text ++ 93 :: rest) = 93 :: rest :=
      skipBlank_text inside (solid_mark (by simp) rest)
    simp [JsonSyntax.text, JsonSyntax.value, readValue, skipped]
  | .array items =>
    simp only [JsonSyntax.text, List.length_cons] at enough
    have read := readItems_text items less rest (by omega)
    simp [JsonSyntax.text, JsonSyntax.value, readValue, items.skip_head rest, read]
  | .emptyObject inside =>
    have skipped : skipBlank (inside.text ++ 125 :: rest) = 125 :: rest :=
      skipBlank_text inside (solid_mark (by simp) rest)
    simp [JsonSyntax.text, JsonSyntax.value, readValue, skipped]
  | .object members =>
    simp only [JsonSyntax.text, List.length_cons] at enough
    have read := readMembers_text members less rest (by omega)
    simp [JsonSyntax.text, JsonSyntax.value, readValue, members.skip_head rest, read]

/-- The values of an array are read back up to its closing bracket. -/
theorem readItems_text (items : ItemsSyntax) (fuel : Nat) (rest : Units)
    (enough : items.text.length ≤ fuel) :
    readItems fuel (skipBlank (items.text ++ rest)) = some (items.values, rest) := by
  match items with
  | .last before item after =>
    simp only [ItemsSyntax.text, List.length_append, List.length_cons, List.length_nil] at enough
    obtain ⟨less, rfl⟩ : ∃ less, fuel = less + 1 := ⟨fuel - 1, by omega⟩
    have read := readValue_text item less (after.text ++ 93 :: rest) (by omega)
      (endsNumeral_mark after (by simp) rest)
    have skipped : skipBlank (after.text ++ 93 :: rest) = 93 :: rest :=
      skipBlank_text after (solid_mark (by simp) rest)
    simp only [ItemsSyntax.text, ItemsSyntax.values, List.append_assoc, List.cons_append,
      List.nil_append]
    rw [skipBlank_text before (item.text_solid _)]
    simp only [readItems, read, skipped, if_true]
  | .more before item after others =>
    simp only [ItemsSyntax.text, List.length_append, List.length_cons] at enough
    obtain ⟨less, rfl⟩ : ∃ less, fuel = less + 1 := ⟨fuel - 1, by omega⟩
    have read := readValue_text item less (after.text ++ 44 :: (others.text ++ rest)) (by omega)
      (endsNumeral_mark after (by simp) _)
    have skipped : skipBlank (after.text ++ 44 :: (others.text ++ rest)) = 44 :: (others.text ++ rest) :=
      skipBlank_text after (solid_mark (by simp) _)
    have tail := readItems_text others less rest (by omega)
    simp only [ItemsSyntax.text, ItemsSyntax.values, List.append_assoc, List.cons_append]
    rw [skipBlank_text before (item.text_solid _)]
    simp [readItems, read, skipped, tail]

/-- The members of an object are read back up to its closing brace. -/
theorem readMembers_text (members : MembersSyntax) (fuel : Nat) (rest : Units)
    (enough : members.text.length ≤ fuel) :
    readMembers fuel (skipBlank (members.text ++ rest)) = some (members.entries, rest) := by
  match members with
  | .last before key colon between value after =>
    simp only [MembersSyntax.text, List.length_append, List.length_cons, List.length_nil] at enough
    obtain ⟨less, rfl⟩ : ∃ less, fuel = less + 1 := ⟨fuel - 1, by omega⟩
    have read := readValue_text value less (after.text ++ 125 :: rest) (by omega)
      (endsNumeral_mark after (by simp) rest)
    have skipped : skipBlank (after.text ++ 125 :: rest) = 125 :: rest :=
      skipBlank_text after (solid_mark (by simp) rest)
    have inner : skipBlank (between.text ++ (value.text ++ (after.text ++ 125 :: rest)))
        = value.text ++ (after.text ++ 125 :: rest) :=
      skipBlank_text between (value.text_solid _)
    have named : ∀ tail, skipBlank (colon.text ++ 58 :: tail) = 58 :: tail :=
      fun tail => skipBlank_text colon (solid_mark (by simp) tail)
    simp only [MembersSyntax.text, MembersSyntax.entries, StringSyntax.text, List.append_assoc,
      List.cons_append, List.nil_append]
    rw [skipBlank_text before (by intro unit head; cases head; rfl)]
    simp [readMembers, readString_text, named, inner, read, skipped]
  | .more before key colon between value after others =>
    simp only [MembersSyntax.text, List.length_append, List.length_cons] at enough
    obtain ⟨less, rfl⟩ : ∃ less, fuel = less + 1 := ⟨fuel - 1, by omega⟩
    have read := readValue_text value less (after.text ++ 44 :: (others.text ++ rest)) (by omega)
      (endsNumeral_mark after (by simp) _)
    have skipped : skipBlank (after.text ++ 44 :: (others.text ++ rest)) = 44 :: (others.text ++ rest) :=
      skipBlank_text after (solid_mark (by simp) _)
    have inner : skipBlank (between.text ++ (value.text ++ (after.text ++ 44 :: (others.text ++ rest))))
        = value.text ++ (after.text ++ 44 :: (others.text ++ rest)) :=
      skipBlank_text between (value.text_solid _)
    have named : ∀ tail, skipBlank (colon.text ++ 58 :: tail) = 58 :: tail :=
      fun tail => skipBlank_text colon (solid_mark (by simp) tail)
    have tail := readMembers_text others less rest (by omega)
    simp only [MembersSyntax.text, MembersSyntax.entries, StringSyntax.text, List.append_assoc,
      List.cons_append, List.nil_append]
    rw [skipBlank_text before (by intro unit head; cases head; rfl)]
    simp [readMembers, readString_text, named, inner, read, skipped, tail]

end

variable {text : Units}

/-- What is read as a literal or a number is the start of the text. -/
theorem readScalar_split {value : JsValue} (read : readScalar text = some (value, rest)) :
    ∃ written : JsonSyntax, text = written.text ++ rest ∧ written.value = value := by
  unfold readScalar at read
  split at read
  · next null =>
    obtain ⟨tail, rfl⟩ := List.isPrefixOf_iff_prefix.mp null
    cases read
    exact ⟨.null, rfl, rfl⟩
  · split at read
    · next yes =>
      obtain ⟨tail, rfl⟩ := List.isPrefixOf_iff_prefix.mp yes
      cases read
      exact ⟨.boolean true, rfl, rfl⟩
    · split at read
      · next no =>
        obtain ⟨tail, rfl⟩ := List.isPrefixOf_iff_prefix.mp no
        cases read
        exact ⟨.boolean false, rfl, rfl⟩
      · obtain ⟨⟨numeral, tail⟩, found, same⟩ := Option.map_eq_some_iff.mp read
        cases same
        exact ⟨.number numeral, readNumeral_split found, rfl⟩

/-- What is read with some fuel as a value, as values or as members is the start of the text. -/
structure ReadsSplit (fuel : Nat) : Prop where
  value : ∀ {text rest : Units} {value : JsValue}, readValue fuel text = some (value, rest) →
    ∃ written : JsonSyntax, text = written.text ++ rest ∧ written.value = value
  items : ∀ {text rest : Units} {values : List JsValue},
    readItems fuel text = some (values, rest) →
    ∃ written : ItemsSyntax, text = written.text ++ rest ∧ written.values = values
  members : ∀ {text rest : Units} {entries : List (Units × JsValue)},
    readMembers fuel text = some (entries, rest) →
    ∃ written : MembersSyntax, text = written.text ++ rest ∧ written.entries = entries

variable {fuel : Nat}

/-- A value read with more fuel is the start of the text, when everything inside it is. -/
theorem ReadsSplit.nextValue (splits : ReadsSplit fuel) {value : JsValue}
    (read : readValue (fuel + 1) text = some (value, rest)) :
    ∃ written : JsonSyntax, text = written.text ++ rest ∧ written.value = value := by
  cases text with
  | nil => cases read
  | cons first after =>
    simp only [readValue] at read
    split at read
    · next quoted =>
      obtain ⟨⟨inner, tail⟩, found, same⟩ := Option.map_eq_some_iff.mp read
      cases same
      obtain ⟨pieces, split, same⟩ := readString_split found
      refine ⟨.string pieces, ?_, by rw [JsonSyntax.value, same]⟩
      rw [quoted, split, JsonSyntax.text, StringSyntax.text]
      simp
    · split at read
      · next opened =>
        obtain ⟨blank, skipped⟩ := skipBlank_split after
        split at read
        · next closed =>
          cases read
          refine ⟨.emptyArray blank, ?_, rfl⟩
          obtain ⟨tail, remains⟩ := List.head?_eq_some_iff.mp closed
          rw [remains] at skipped ⊢
          simp [JsonSyntax.text, opened, skipped]
        · obtain ⟨⟨values, tail⟩, found, same⟩ := Option.map_eq_some_iff.mp read
          cases same
          obtain ⟨items, split, same⟩ := splits.items found
          refine ⟨.array (items.indent blank), ?_, ?_⟩
          · rw [JsonSyntax.text, ItemsSyntax.indent_text, opened, List.cons_append,
              List.append_assoc, ← split, ← skipped]
          · rw [JsonSyntax.value, ItemsSyntax.indent_values, same]
      · split at read
        · next opened =>
          obtain ⟨blank, skipped⟩ := skipBlank_split after
          split at read
          · next closed =>
            cases read
            refine ⟨.emptyObject blank, ?_, rfl⟩
            obtain ⟨tail, remains⟩ := List.head?_eq_some_iff.mp closed
            rw [remains] at skipped ⊢
            simp [JsonSyntax.text, opened, skipped]
          · obtain ⟨⟨entries, tail⟩, found, same⟩ := Option.map_eq_some_iff.mp read
            cases same
            obtain ⟨members, split, same⟩ := splits.members found
            refine ⟨.object (members.indent blank), ?_, ?_⟩
            · rw [JsonSyntax.text, MembersSyntax.indent_text, opened, List.cons_append,
                List.append_assoc, ← split, ← skipped]
            · rw [JsonSyntax.value, MembersSyntax.indent_entries, same]
        · exact readScalar_split read

/-- Values read with more fuel are the start of the text, when everything inside them is. -/
theorem ReadsSplit.nextItems (splits : ReadsSplit fuel) {values : List JsValue}
    (read : readItems (fuel + 1) text = some (values, rest)) :
    ∃ written : ItemsSyntax, text = written.text ++ rest ∧ written.values = values := by
  simp only [readItems] at read
  cases found : readValue fuel text with
  | none => simp [found] at read
  | some item =>
    obtain ⟨item, after⟩ := item
    simp only [found] at read
    obtain ⟨written, split, same⟩ := splits.value found
    obtain ⟨blank, skipped⟩ := skipBlank_split after
    cases following : skipBlank after with
    | nil => simp [following] at read
    | cons mark tail =>
      simp only [following] at read
      rw [following] at skipped
      split at read
      · next closed =>
        cases read
        refine ⟨.last [] written blank, ?_, ?_⟩
        · rw [split, skipped, closed]
          simp [ItemsSyntax.text, Blank.text]
        · rw [ItemsSyntax.values, same]
      · split at read
        · next separated =>
          obtain ⟨⟨others, ending⟩, more, joined⟩ := Option.map_eq_some_iff.mp read
          cases joined
          obtain ⟨items, apart, equal⟩ := splits.items more
          obtain ⟨lead, led⟩ := skipBlank_split tail
          refine ⟨.more [] written blank (items.indent lead), ?_, ?_⟩
          · rw [split, skipped, separated, led, apart]
            simp [ItemsSyntax.text, ItemsSyntax.indent_text, Blank.text]
          · rw [ItemsSyntax.values, same, ItemsSyntax.indent_values, equal]
        · cases read

/-- Members read with more fuel are the start of the text, when everything inside them is. -/
theorem ReadsSplit.nextMembers (splits : ReadsSplit fuel) {entries : List (Units × JsValue)}
    (read : readMembers (fuel + 1) text = some (entries, rest)) :
    ∃ written : MembersSyntax, text = written.text ++ rest ∧ written.entries = entries := by
  cases text with
  | nil => cases read
  | cons quote inside =>
    simp only [readMembers] at read
    split at read
    · cases read
    · next quoted =>
      simp only [ne_eq, Classical.not_not] at quoted
      cases named : readString inside with
      | none => simp [named] at read
      | some key =>
        obtain ⟨key, afterKey⟩ := key
        simp only [named] at read
        obtain ⟨pieces, keySplit, keySame⟩ := readString_split named
        obtain ⟨colon, colonSkipped⟩ := skipBlank_split afterKey
        cases pointed : skipBlank afterKey with
        | nil => simp [pointed] at read
        | cons point value =>
          simp only [pointed] at read
          rw [pointed] at colonSkipped
          split at read
          · cases read
          · next colonRead =>
            simp only [ne_eq, Classical.not_not] at colonRead
            obtain ⟨between, betweenSkipped⟩ := skipBlank_split value
            cases found : readValue fuel (skipBlank value) with
            | none => simp [found] at read
            | some member =>
              obtain ⟨member, after⟩ := member
              simp only [found] at read
              obtain ⟨written, split, same⟩ := splits.value found
              obtain ⟨blank, skipped⟩ := skipBlank_split after
              -- Up to the mark behind the member the text is the member's.
              have front : quote :: inside = StringSyntax.text pieces ++ (colon.text ++ 58 ::
                  (between.text ++ (written.text ++ (blank.text ++ skipBlank after)))) := by
                rw [quoted, keySplit, colonSkipped, colonRead, ← skipped, ← split, ← betweenSkipped]
                simp [StringSyntax.text]
              cases following : skipBlank after with
              | nil => simp [following] at read
              | cons mark tail =>
                simp only [following] at read
                rw [following] at front
                split at read
                · next closed =>
                  cases read
                  refine ⟨.last [] pieces colon between written blank, ?_, ?_⟩
                  · rw [front, closed]
                    simp [MembersSyntax.text, Blank.text]
                  · rw [MembersSyntax.entries, keySame, same]
                · split at read
                  · next separated =>
                    obtain ⟨⟨others, ending⟩, more, joined⟩ := Option.map_eq_some_iff.mp read
                    cases joined
                    obtain ⟨members, apart, equal⟩ := splits.members more
                    obtain ⟨lead, led⟩ := skipBlank_split tail
                    refine ⟨.more [] pieces colon between written blank (members.indent lead), ?_, ?_⟩
                    · rw [front, separated, led, apart]
                      simp [MembersSyntax.text, MembersSyntax.indent_text, Blank.text]
                    · rw [MembersSyntax.entries, keySame, same, MembersSyntax.indent_entries, equal]
                  · cases read

theorem reads_split (fuel : Nat) : ReadsSplit fuel := by
  induction fuel with
  | zero => exact ⟨nofun, nofun, nofun⟩
  | succ fuel ih => exact ⟨ih.nextValue, ih.nextItems, ih.nextMembers⟩

/-- A text reads as a value exactly when the grammar writes it for that value. -/
theorem jsonParse_iff (text : Units) (value : JsValue) :
    jsonParse text = some value ↔ ∃ written : JsonText, written.text = text
      ∧ written.value.value = value := by
  constructor
  · intro parsed
    unfold jsonParse at parsed
    cases read : readValue text.length (skipBlank text) with
    | none => simp [read] at parsed
    | some found =>
      obtain ⟨found, rest⟩ := found
      simp only [read] at parsed
      split at parsed
      · next ended =>
        cases parsed
        obtain ⟨written, split, same⟩ := (reads_split text.length).value read
        obtain ⟨before, led⟩ := skipBlank_split text
        obtain ⟨after, trailed⟩ := skipBlank_split rest
        refine ⟨⟨before, written, after⟩, ?_, same⟩
        rw [led, split, trailed, ended]
        simp [JsonText.text]
      · cases parsed
  · rintro ⟨⟨before, written, after⟩, rfl, rfl⟩
    have enough : written.text.length ≤ (before.text ++ (written.text ++ after.text)).length := by
      simp only [List.length_append]
      omega
    have read := readValue_text written _ after.text enough (endsNumeral_end after)
    have ended : skipBlank after.text = [] := by
      have whole : skipBlank (after.text ++ []) = [] :=
        skipBlank_text after (by intro unit head; cases head)
      rwa [List.append_nil] at whole
    unfold jsonParse
    rw [JsonText.text, skipBlank_text before (written.text_solid _), read]
    simp [ended]

end Klura
