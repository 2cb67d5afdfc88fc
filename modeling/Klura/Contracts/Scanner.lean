import Klura.Contracts.StrictJson
import Mathlib.Data.List.DropRight

/-! The strict scanner passes over a JSON text exactly when its depth and its keys allow. -/

namespace Klura

namespace StrictJson

variable {field : Units} {maximumDepth : Nat}

theorem isWhitespace_visible {unit : UInt16} (visible : isVisible unit = true) :
    isWhitespace unit = false := by
  simp only [isVisible, decide_eq_true_eq] at visible
  simp only [isWhitespace, Bool.or_eq_false_iff, decide_eq_false_iff_not, beq_eq_false_iff_ne]
  omega

variable {rest : Units}

theorem whitespace_text (blank : Blank) (visible : ∀ unit ∈ rest.head?, isVisible unit = true) :
    whitespace (blank.text ++ rest) = rest := by
  induction blank with
  | nil =>
    cases rest with
    | nil => rfl
    | cons unit rest => simp [Blank.text, whitespace, isWhitespace_visible (visible unit rfl)]
  | cons unit blank ih =>
    have space : isWhitespace unit.unit = true := by cases unit <;> rfl
    simp only [Blank.text, List.map_cons, List.cons_append, whitespace] at ih ⊢
    rw [List.dropWhile_cons_of_pos space, ih]

theorem visible_head {first : UInt16} (visible : isVisible first = true) (rest : Units) :
    ∀ unit ∈ (first :: rest).head?, isVisible unit = true := by
  intro unit head
  cases head
  exact visible

theorem text_visible (value : JsonSyntax) (rest : Units) :
    ∀ unit ∈ (value.text ++ rest).head?, isVisible unit = true := by
  obtain ⟨first, tail, text, visible, -⟩ := value.text_starts
  rw [text]
  exact visible_head visible _

/-- The closing quotation mark of a string is found. -/
theorem closingQuote_text (pieces : StringSyntax) (rest : Units) :
    closingQuote (pieces.flatMap Piece.text ++ 34 :: rest)
      = some (pieces.flatMap Piece.text ++ [34], rest) := by
  have hexes : ∀ (upper : Bool) (value : Fin 16), HexDigit.unit ⟨upper, value⟩ ≠ 34
      ∧ HexDigit.unit ⟨upper, value⟩ ≠ 92 ∧ ¬(HexDigit.unit ⟨upper, value⟩).toNat < 32 := by
    decide
  induction pieces with
  | nil =>
    rw [List.flatMap_nil, List.nil_append, closingQuote.eq_def]
    rfl
  | cons piece pieces ih =>
    rw [List.flatMap_cons, List.append_assoc, List.append_assoc]
    cases piece with
    | plain unit allowed =>
      simp only [isPlain, Bool.and_eq_true, bne_iff_ne, decide_eq_true_eq] at allowed
      obtain ⟨⟨visible, unquoted⟩, unescaped⟩ := allowed
      rw [Piece.text, List.singleton_append, closingQuote.eq_def]
      simp [unquoted, unescaped, visible, ih]
    | short escape =>
      rw [Piece.text, List.cons_append, List.singleton_append, closingQuote.eq_def]
      simp [ih]
    | hex first second third fourth =>
      -- The backslash skips the letter, and the four digits stop nothing.
      have step : ∀ (digit : HexDigit) (tail : Units) (slice : Units),
          closingQuote tail = some (slice, rest) →
          closingQuote (digit.unit :: tail) = some (digit.unit :: slice, rest) := by
        intro digit tail slice found
        obtain ⟨unquoted, unescaped, visible⟩ := hexes digit.upper digit.value
        rw [closingQuote.eq_def]
        simp [unquoted, unescaped, visible, found]
      have digits := step first _ _ (step second _ _ (step third _ _ (step fourth _ _ ih)))
      simp only [Piece.text, List.cons_append, List.nil_append]
      rw [closingQuote.eq_def]
      simp [digits]

theorem consumeString_text (pieces : StringSyntax) (rest : Units) :
    consumeString field (pieces.text ++ rest) = .ok (pieces.value, rest) := by
  have parsed : jsonParse pieces.text = some (.string pieces.value) := by
    rw [jsonParse_iff]
    exact ⟨⟨[], .string pieces, []⟩, by simp [JsonText.text, JsonSyntax.text, Blank.text], rfl⟩
  rw [StringSyntax.text] at parsed ⊢
  simp only [List.cons_append, List.append_assoc]
  simp [consumeString, closingQuote_text, parsed]

theorem consumeLiteral_number (numeral : Numeral) (ends : EndsNumeral rest) :
    consumeLiteral field (numeral.text ++ rest) = .ok rest := by
  have digits : ∀ digit : Digit, digit.unit ≠ 110 ∧ digit.unit ≠ 116 ∧ digit.unit ≠ 102 := by
    decide
  obtain ⟨first, tail, text, notNull, notTrue, notFalse⟩ :
      ∃ first tail, numeral.text ++ rest = first :: tail
        ∧ first ≠ 110 ∧ first ≠ 116 ∧ first ≠ 102 := by
    unfold Numeral.text
    cases numeral.negative with
    | true => exact ⟨45, _, rfl, by decide⟩
    | false =>
      cases numeral.whole with
      | zero => exact ⟨48, _, rfl, by decide⟩
      | digits first row => exact ⟨Digit.unit first.succ, _, rfl, digits first.succ⟩
  have read := readNumeral_text numeral ends
  have texts : ascii "null" = [110, 117, 108, 108] ∧ ascii "true" = [116, 114, 117, 101]
      ∧ ascii "false" = [102, 97, 108, 115, 101] := by decide
  rw [text] at read ⊢
  unfold consumeLiteral
  simp [texts, List.isPrefixOf, notNull.symm, notTrue.symm, notFalse.symm, read]

/-- A source is consumed up to a rest exactly when a condition holds, and refused otherwise. -/
structure Consumes (result : Except PublicContractError Units) (rest : Units) (accepts : Prop) :
    Prop where
  accepted : accepts → result = .ok rest
  refused : ¬accepts → ∃ error, result = .error error

variable {result : Except PublicContractError Units}

variable {accepts : Prop}

theorem Consumes.always (holds : accepts) (ran : result = .ok rest) :
    Consumes result rest accepts :=
  ⟨fun _ => ran, fun refused => absurd holds refused⟩

theorem Consumes.before {middle : Units} {first both : Prop}
    {next : Units → Except PublicContractError Units} (consumes : Consumes result middle first)
    (implied : both → first) (further : first → Consumes (next middle) rest both) :
    Consumes (result >>= next) rest both := by
  by_cases head : first
  · rw [consumes.accepted head]
    exact further head
  · obtain ⟨error, ran⟩ := consumes.refused head
    rw [ran]
    exact ⟨fun all => absurd (implied all) head, fun _ => ⟨error, rfl⟩⟩

theorem Consumes.iff {same : Prop} (consumes : Consumes result rest accepts)
    (equal : same ↔ accepts) :
    Consumes result rest same :=
  ⟨fun holds => consumes.accepted (equal.mp holds),
    fun refused => consumes.refused fun holds => refused (equal.mpr holds)⟩

theorem consumeValue_whitespace (levels : Nat) (source : Units) :
    consumeValue field maximumDepth levels (whitespace source)
      = consumeValue field maximumDepth levels source := by
  have skipped : whitespace (whitespace source) = whitespace source :=
    List.dropWhile_idempotent _ source
  cases levels with
  | zero => rfl
  | succ levels => simp only [consumeValue, skipped]

theorem consumeItems_whitespace (levels rounds : Nat) (source : Units) :
    consumeItems field (consumeValue field maximumDepth levels) rounds (whitespace source)
      = consumeItems field (consumeValue field maximumDepth levels) rounds source := by
  cases rounds with
  | zero => rfl
  | succ rounds => simp only [consumeItems, consumeValue_whitespace]

theorem consumeMembers_whitespace (levels rounds : Nat) (keys : List Units) (source : Units) :
    consumeMembers field (consumeValue field maximumDepth levels) rounds keys (whitespace source)
      = consumeMembers field (consumeValue field maximumDepth levels) rounds keys source := by
  have skipped : whitespace (whitespace source) = whitespace source :=
    List.dropWhile_idempotent _ source
  cases rounds with
  | zero => rfl
  | succ rounds => simp only [consumeMembers, skipped]

/-- The number of an array's values. -/
def itemCount : ItemsSyntax → Nat
  | .last .. => 1
  | .more _ _ _ rest => itemCount rest + 1

/-- The number of an object's members. -/
def memberCount : MembersSyntax → Nat
  | .last .. => 1
  | .more _ _ _ _ _ _ rest => memberCount rest + 1

theorem itemCount_le (items : ItemsSyntax) : itemCount items ≤ items.text.length := by
  match items with
  | .last before item after =>
    simp only [itemCount, ItemsSyntax.text, List.length_append, List.length_cons]
    omega
  | .more before item after others =>
    have inner := itemCount_le others
    simp only [itemCount, ItemsSyntax.text, List.length_append, List.length_cons]
    omega

theorem memberCount_le (members : MembersSyntax) : memberCount members ≤ members.text.length := by
  match members with
  | .last before key colon between value after =>
    simp only [memberCount, MembersSyntax.text, List.length_append, List.length_cons]
    omega
  | .more before key colon between value after others =>
    have inner := memberCount_le others
    simp only [memberCount, MembersSyntax.text, List.length_append, List.length_cons]
    omega

theorem itemCount_rounds (items : ItemsSyntax) (rest : Units) :
    itemCount items ≤ (whitespace (items.text ++ rest)).length := by
  cases items with
  | last before item after =>
    simp only [itemCount, ItemsSyntax.text, List.append_assoc]
    rw [whitespace_text before (text_visible item _), List.length_append]
    have := item.text_pos
    omega
  | more before item after others =>
    have inner := itemCount_le others
    simp only [itemCount, ItemsSyntax.text, List.append_assoc, List.cons_append]
    rw [whitespace_text before (text_visible item _)]
    simp only [List.length_append, List.length_cons]
    omega

theorem string_visible (pieces : StringSyntax) (rest : Units) :
    ∀ unit ∈ (pieces.text ++ rest).head?, isVisible unit = true :=
  visible_head rfl _

theorem memberCount_rounds (members : MembersSyntax) (rest : Units) :
    memberCount members ≤ (whitespace (members.text ++ rest)).length := by
  cases members with
  | last before key colon between value after =>
    simp only [memberCount, MembersSyntax.text, List.append_assoc, List.cons_append]
    rw [whitespace_text before (string_visible key _)]
    simp only [List.length_append, List.length_cons]
    omega
  | more before key colon between value after others =>
    have inner := memberCount_le others
    simp only [memberCount, MembersSyntax.text, List.append_assoc, List.cons_append]
    rw [whitespace_text before (string_visible key _)]
    simp only [List.length_append, List.length_cons]
    omega

theorem items_unclosed (items : ItemsSyntax) (rest : Units) :
    (whitespace (items.text ++ rest)).head? ≠ some 93 := by
  have starts : ∀ (before : Blank) (item : JsonSyntax) (tail : Units),
      (whitespace (before.text ++ (item.text ++ tail))).head? ≠ some 93 := by
    intro before item tail
    rw [whitespace_text before (text_visible item tail)]
    obtain ⟨first, after, text, -, unclosed, -⟩ := item.text_starts
    simp [text, unclosed]
  cases items <;> simp only [ItemsSyntax.text, List.append_assoc] <;> apply starts

theorem members_unclosed (members : MembersSyntax) (rest : Units) :
    (whitespace (members.text ++ rest)).head? ≠ some 125 := by
  have starts : ∀ (before : Blank) (key : StringSyntax) (tail : Units),
      (whitespace (before.text ++ (key.text ++ tail))).head? ≠ some 125 := by
    intro before key tail
    rw [whitespace_text before (string_visible key tail)]
    simp [StringSyntax.text]
  cases members <;> simp only [MembersSyntax.text, List.append_assoc] <;> apply starts

theorem consumeMember_text {consumeValue : Units → Except PublicContractError Units} (rounds : Nat)
    (seen : List Units) (before : Blank) (key : StringSyntax) (colon : Blank) (value rest : Units)
    (unseen : accepts → key.value ∉ seen)
    (further : key.value ∉ seen → Consumes (consumeValue value >>= fun after => match whitespace after with | [] => fail field "must be valid JSON" | mark :: rest => if mark = 125 then .ok rest else if mark ≠ 44 then fail field "must be valid JSON" else consumeMembers field consumeValue rounds (key.value :: seen) rest) rest accepts) :
    Consumes (consumeMembers field consumeValue (rounds + 1) seen
      (before.text ++ (key.text ++ (colon.text ++ 58 :: value)))) rest accepts := by
  have named : whitespace (colon.text ++ 58 :: value) = 58 :: value :=
    whitespace_text colon (visible_head (by decide) value)
  have consumed : consumeString field (key.text ++ (colon.text ++ 58 :: value))
      = .ok (key.value, colon.text ++ 58 :: value) := consumeString_text key _
  rw [consumeMembers, whitespace_text before (string_visible key _), consumed]
  by_cases repeated : key.value ∈ seen
  · refine ⟨fun all => absurd repeated (unseen all), fun _ => ?_⟩
    simp only [bind, Except.bind, if_pos repeated]
    exact ⟨_, rfl⟩
  · simp only [bind, Except.bind, if_neg repeated, named, ne_eq, not_true_eq_false, if_false]
      at further ⊢
    exact further repeated

mutual

/-- A value is consumed exactly when it nests within the levels left and repeats no key. -/
theorem consumeValue_text (value : JsonSyntax) (levels : Nat) (before : Blank) (rest : Units)
    (ends : EndsNumeral rest) :
    Consumes (consumeValue field maximumDepth levels (before.text ++ (value.text ++ rest))) rest
      (value.depth < levels ∧ value.KeysDistinct) := by
  cases levels with
  | zero => exact ⟨fun accepts => absurd accepts.1 (Nat.not_lt_zero _), fun _ => ⟨_, rfl⟩⟩
  | succ levels =>
    rw [consumeValue, whitespace_text before (text_visible value rest)]
    match value with
    | .null => exact .always ⟨Nat.succ_pos _, trivial⟩ rfl
    | .boolean true => exact .always ⟨Nat.succ_pos _, trivial⟩ rfl
    | .boolean false => exact .always ⟨Nat.succ_pos _, trivial⟩ rfl
    | .number numeral =>
      apply Consumes.always ⟨Nat.succ_pos _, trivial⟩
      have literal : consumeLiteral field (numeral.text ++ rest) = .ok rest :=
        consumeLiteral_number numeral ends
      have digits : ∀ digit : Digit, digit.unit ≠ 34 ∧ digit.unit ≠ 91 ∧ digit.unit ≠ 123 := by
        decide
      obtain ⟨first, tail, text, notString, notArray, notObject⟩ :
          ∃ first tail, numeral.text = first :: tail
            ∧ first ≠ 34 ∧ first ≠ 91 ∧ first ≠ 123 := by
        unfold Numeral.text
        cases numeral.negative with
        | true => exact ⟨45, _, rfl, by decide⟩
        | false =>
          cases numeral.whole with
          | zero => exact ⟨48, _, rfl, by decide⟩
          | digits first row => exact ⟨Digit.unit first.succ, _, rfl, digits first.succ⟩
      rw [JsonSyntax.text, text, List.cons_append]
      rw [text, List.cons_append] at literal
      simp [notString, notArray, notObject, literal]
    | .string pieces =>
      apply Consumes.always ⟨Nat.succ_pos _, trivial⟩
      have consumed : consumeString field (pieces.text ++ rest) = .ok (pieces.value, rest) :=
        consumeString_text pieces rest
      rw [JsonSyntax.text, StringSyntax.text, List.cons_append]
      rw [StringSyntax.text, List.cons_append] at consumed
      simp only [if_true, consumed]
      rfl
    | .emptyArray inside =>
      apply Consumes.always ⟨Nat.succ_pos _, trivial⟩
      have skipped : whitespace (inside.text ++ 93 :: rest) = 93 :: rest :=
        whitespace_text inside (visible_head (by decide) rest)
      simp [JsonSyntax.text, skipped]
    | .array items =>
      have inner := consumeItems_text items levels _ rest (itemCount_rounds items rest)
      rw [← consumeItems_whitespace] at inner
      rw [JsonSyntax.text, List.cons_append]
      have kinds : (91 : UInt16) ≠ 34 := by decide
      simp only [kinds, if_false, if_true, items_unclosed items rest]
      apply inner.iff
      simp only [JsonSyntax.depth, JsonSyntax.KeysDistinct, Nat.add_lt_add_iff_right]
    | .emptyObject inside =>
      apply Consumes.always ⟨Nat.succ_pos _, trivial⟩
      have skipped : whitespace (inside.text ++ 125 :: rest) = 125 :: rest :=
        whitespace_text inside (visible_head (by decide) rest)
      simp [JsonSyntax.text, skipped]
    | .object members =>
      have inner := consumeMembers_text members levels _ [] rest (memberCount_rounds members rest)
      rw [← consumeMembers_whitespace] at inner
      rw [JsonSyntax.text, List.cons_append]
      have kinds : (123 : UInt16) ≠ 34 ∧ (123 : UInt16) ≠ 91 := by decide
      simp only [kinds.1, kinds.2, if_false, if_true, members_unclosed members rest]
      apply inner.iff
      simp only [JsonSyntax.depth, JsonSyntax.KeysDistinct, Nat.add_lt_add_iff_right]
      simp [and_comm, and_left_comm]

/-- The values of an array are consumed exactly when each of them is. -/
theorem consumeItems_text (items : ItemsSyntax) (levels rounds : Nat) (rest : Units)
    (enough : itemCount items ≤ rounds) :
    Consumes (consumeItems field (consumeValue field maximumDepth levels) rounds
        (items.text ++ rest)) rest
      (items.depth < levels ∧ items.KeysDistinct) := by
  match items with
  | .last before item after =>
    obtain ⟨fewer, rfl⟩ : ∃ fewer, rounds = fewer + 1 := by
      simp only [itemCount] at enough
      exact ⟨rounds - 1, by omega⟩
    have head := consumeValue_text item levels before
      (after.text ++ 93 :: rest) (endsNumeral_mark after (by simp) rest)
    have skipped : whitespace (after.text ++ 93 :: rest) = 93 :: rest :=
      whitespace_text after (visible_head (by decide) rest)
    simp only [ItemsSyntax.text, ItemsSyntax.depth, ItemsSyntax.KeysDistinct, List.append_assoc,
      List.cons_append, List.nil_append, consumeItems]
    apply head.before id
    intro accepted
    exact .always accepted (by simp [skipped])
  | .more before item after others =>
    obtain ⟨fewer, rfl⟩ : ∃ fewer, rounds = fewer + 1 := by
      simp only [itemCount] at enough
      exact ⟨rounds - 1, by omega⟩
    have head := consumeValue_text item levels before
      (after.text ++ 44 :: (others.text ++ rest)) (endsNumeral_mark after (by simp) _)
    have skipped : whitespace (after.text ++ 44 :: (others.text ++ rest)) = 44 :: (others.text ++ rest) :=
      whitespace_text after (visible_head (by decide) _)
    have tail := consumeItems_text others levels fewer rest (by simp only [itemCount] at enough; omega)
    simp only [ItemsSyntax.text, ItemsSyntax.depth, ItemsSyntax.KeysDistinct, List.append_assoc,
      List.cons_append, consumeItems, Nat.max_lt]
    apply head.before fun all => ⟨all.1.1, all.2.1⟩
    intro accepted
    simp only [skipped]
    apply tail.iff
    simp [accepted]

/-- The members of an object are consumed exactly when each of them is and no key repeats. -/
theorem consumeMembers_text (members : MembersSyntax) (levels rounds : Nat) (seen : List Units)
    (rest : Units) (enough : memberCount members ≤ rounds) :
    Consumes (consumeMembers field (consumeValue field maximumDepth levels) rounds seen
        (members.text ++ rest)) rest
      (members.depth < levels ∧ members.KeysDistinct
        ∧ members.keys.Nodup ∧ ∀ key ∈ members.keys, key ∉ seen) := by
  match members with
  | .last before key colon between value after =>
    obtain ⟨fewer, rfl⟩ : ∃ fewer, rounds = fewer + 1 := by
      simp only [memberCount] at enough
      exact ⟨rounds - 1, by omega⟩
    have head := consumeValue_text value levels between (after.text ++ 125 :: rest)
      (endsNumeral_mark after (by simp) rest)
    have skipped : whitespace (after.text ++ 125 :: rest) = 125 :: rest :=
      whitespace_text after (visible_head (by decide) rest)
    simp only [MembersSyntax.text, List.append_assoc, List.cons_append, List.nil_append]
    apply consumeMember_text
    · exact fun all => all.2.2.2 _ (by simp [MembersSyntax.keys])
    · intro fresh
      apply (head.before id fun accepted => .always accepted (by simp [skipped])).iff
      simp [MembersSyntax.depth, MembersSyntax.KeysDistinct, MembersSyntax.keys, fresh]
  | .more before key colon between value after others =>
    obtain ⟨fewer, rfl⟩ : ∃ fewer, rounds = fewer + 1 := by
      simp only [memberCount] at enough
      exact ⟨rounds - 1, by omega⟩
    have head := consumeValue_text value levels between (after.text ++ 44 :: (others.text ++ rest))
      (endsNumeral_mark after (by simp) _)
    have skipped : whitespace (after.text ++ 44 :: (others.text ++ rest)) = 44 :: (others.text ++ rest) :=
      whitespace_text after (visible_head (by decide) _)
    have tail := consumeMembers_text others levels fewer (key.value :: seen) rest
      (by simp only [memberCount] at enough; omega)
    simp only [MembersSyntax.text, List.append_assoc, List.cons_append]
    apply consumeMember_text
    · exact fun all => all.2.2.2 _ (by simp [MembersSyntax.keys])
    · intro fresh
      simp only [MembersSyntax.depth, MembersSyntax.KeysDistinct, MembersSyntax.keys, Nat.max_lt]
      apply head.before fun all => ⟨all.1.1, all.2.1.1⟩
      intro accepted
      simp only [skipped]
      apply tail.iff
      -- The keys that remain must differ from this one and from those seen before it.
      simp only [accepted, fresh, true_and, List.nodup_cons, List.mem_cons, not_or,
        forall_eq_or_imp, not_false_eq_true]
      constructor
      · intro all
        exact ⟨all.1, all.2.1, all.2.2.1.2,
          fun other member => ⟨fun same => all.2.2.1.1 (same ▸ member), all.2.2.2 other member⟩⟩
      · intro all
        exact ⟨all.1, all.2.1, ⟨fun member => (all.2.2.2 _ member).1 rfl, all.2.2.1⟩,
          fun other member => (all.2.2.2 other member).2⟩

end

/-- A source is read exactly when it is a text within the bounds whose objects repeat no key. -/
theorem parseStrictJson_iff (source : Units) (maximumBytes : Nat) (value : JsValue) :
    parseStrictJson field maximumDepth source maximumBytes = .ok value ↔
      utf8Length source ≤ maximumBytes ∧ ∃ written : JsonText, written.text = source
        ∧ written.value.depth ≤ maximumDepth ∧ written.value.KeysDistinct
        ∧ written.value.value = value := by
  -- On a text of the grammar the scanner decides by depth and keys alone.
  have scans : ∀ written : JsonText,
      Consumes (consumeValue field maximumDepth (maximumDepth + 1) written.text) written.after.text
        (written.value.depth ≤ maximumDepth ∧ written.value.KeysDistinct) := by
    intro written
    apply (consumeValue_text written.value (maximumDepth + 1) written.before written.after.text
      (endsNumeral_end written.after)).iff
    rw [Nat.lt_succ_iff]
  have trails : ∀ blank : Blank, whitespace blank.text = [] := by
    intro blank
    have skipped : whitespace (blank.text ++ []) = [] :=
      whitespace_text blank (by intro unit head; cases head)
    rwa [List.append_nil] at skipped
  constructor
  · intro parsed
    unfold parseStrictJson at parsed
    by_cases large : maximumBytes < utf8Length source
    · rw [if_pos large] at parsed
      cases parsed
    · rw [if_neg large] at parsed
      refine ⟨Nat.le_of_not_lt large, ?_⟩
      cases scanned : assertNoDuplicateJsonObjectKeys field maximumDepth source with
      | error failure =>
        rw [scanned] at parsed
        cases parsed
      | ok _ =>
        rw [scanned] at parsed
        simp only [bind, Except.bind] at parsed
        cases read : jsonParse source with
        | none => simp [read, fail] at parsed
        | some found =>
          simp only [read] at parsed
          cases parsed
          obtain ⟨written, rfl, same⟩ := (jsonParse_iff source value).mp read
          by_cases accepted : written.value.depth ≤ maximumDepth ∧ written.value.KeysDistinct
          · exact ⟨written, rfl, accepted.1, accepted.2, same⟩
          · obtain ⟨error, refused⟩ := (scans written).refused accepted
            rw [assertNoDuplicateJsonObjectKeys, refused] at scanned
            cases scanned
  · rintro ⟨small, written, rfl, shallow, distinct, rfl⟩
    have read := (jsonParse_iff written.text written.value.value).mpr ⟨written, rfl, rfl⟩
    have scanned := (scans written).accepted ⟨shallow, distinct⟩
    unfold parseStrictJson
    rw [if_neg (Nat.not_lt.mpr small), assertNoDuplicateJsonObjectKeys, scanned]
    simp [bind, Except.bind, trails, read]

end StrictJson

end Klura
