import Klura.Library.JsonGrammar

/-! JSON.parse: a reader of JSON texts, which accepts exactly what the grammar writes. -/

namespace Klura

/-- The digit a code unit is. -/
def digitOf (unit : UInt16) : Option Digit :=
  if within : 48 ≤ unit.toNat ∧ unit.toNat ≤ 57 then some ⟨unit.toNat - 48, by omega⟩ else none

/-- The row of digits a text starts with, and what follows it. -/
def takeDigits : Units → List Digit × Units
  | [] => ([], [])
  | unit :: rest =>
    match digitOf unit with
    | none => ([], unit :: rest)
    | some digit => (digit :: (takeDigits rest).1, (takeDigits rest).2)

/-- The whole part a text starts with. -/
def readWhole : Units → Option (WholePart × Units)
  | [] => none
  | unit :: rest =>
    match digitOf unit with
    | none => none
    | some digit =>
      if some : digit = 0 then .some (.zero, rest)
      else .some (.digits (digit.pred some) (takeDigits rest).1, (takeDigits rest).2)

/-- The fraction a text starts with, if it starts with one. -/
def readFraction : Units → Option (Digit × List Digit) × Units
  | point :: unit :: rest =>
    match if point = 46 then digitOf unit else none with
    | some first => (some (first, (takeDigits rest).1), (takeDigits rest).2)
    | none => (none, point :: unit :: rest)
  | text => (none, text)

/-- The sign a text starts with, if it starts with one. -/
def readSign : Units → Option Bool × Units
  | [] => (none, [])
  | unit :: rest =>
    if unit = 43 then (some false, rest)
    else if unit = 45 then (some true, rest)
    else (none, unit :: rest)

/-- The exponent a text starts with, if it starts with one. -/
def readExponent : Units → Option ExponentPart × Units
  | [] => (none, [])
  | letter :: rest =>
    if letter = 69 ∨ letter = 101 then
      match (readSign rest).2 with
      | [] => (none, letter :: rest)
      | unit :: last =>
        match digitOf unit with
        | none => (none, letter :: rest)
        | some first =>
          (some {
            upper := decide (letter = 69)
            sign := (readSign rest).1
            first
            rest := (takeDigits last).1 }, (takeDigits last).2)
    else (none, letter :: rest)

/-- The longest number a text starts with. -/
def readNumeral (text : Units) : Option (Numeral × Units) :=
  let negative := decide (text.head? = some 45)
  (readWhole (if negative then text.tail else text)).map fun whole =>
    let fraction := readFraction whole.2
    let exponent := readExponent fraction.2
    ({ negative, whole := whole.1, fraction := fraction.1, exponent := exponent.1 }, exponent.2)

/-- The hexadecimal digit a code unit is. -/
def hexOf (unit : UInt16) : Option HexDigit :=
  let code := unit.toNat
  if digit : 48 ≤ code ∧ code ≤ 57 then some { upper := false, value := ⟨code - 48, by omega⟩ }
  else if upper : 65 ≤ code ∧ code ≤ 70 then
    some { upper := true, value := ⟨code - 55, by omega⟩ }
  else if lower : 97 ≤ code ∧ code ≤ 102 then
    some { upper := false, value := ⟨code - 87, by omega⟩ }
  else none

/-- The escape that a code unit after a backslash selects. -/
def shortEscapeOf (mark : UInt16) : Option ShortEscape :=
  if mark = 34 then some .quotation
  else if mark = 92 then some .backslash
  else if mark = 47 then some .slash
  else if mark = 98 then some .backspace
  else if mark = 102 then some .formFeed
  else if mark = 110 then some .lineFeed
  else if mark = 114 then some .carriageReturn
  else if mark = 116 then some .tab
  else none

/-- The string that ends at the next quotation mark which is not escaped. -/
def readString : Units → Option (Units × Units)
  | [] => none
  | unit :: rest =>
    if unit = 34 then some ([], rest)
    else if unit = 92 then
      match rest with
      | [] => none
      | mark :: after =>
        match shortEscapeOf mark with
        | some escape => (readString after).map fun read => (escape.unit :: read.1, read.2)
        | none =>
          if mark = 117 then
            match after with
            | first :: second :: third :: fourth :: last =>
              match hexOf first, hexOf second, hexOf third, hexOf fourth with
              | some a, some b, some c, some d =>
                (readString last).map fun read =>
                  (hexUnit a.value b.value c.value d.value :: read.1, read.2)
              | _, _, _, _ => none
            | _ => none
          else none
    else if isPlain unit then (readString rest).map fun read => (unit :: read.1, read.2)
    else none

/-- Whether a code unit is a blank of the grammar. -/
def isBlank (unit : UInt16) : Bool := unit == 32 || unit == 9 || unit == 10 || unit == 13

/-- A text without the blanks it starts with. -/
def skipBlank (text : Units) : Units := text.dropWhile isBlank

/-- The literal or the number a text starts with. -/
def readScalar (text : Units) : Option (JsValue × Units) :=
  if (JsonSyntax.text .null).isPrefixOf text then some (.null, text.drop 4)
  else if (JsonSyntax.text (.boolean true)).isPrefixOf text then
    some (.boolean true, text.drop 4)
  else if (JsonSyntax.text (.boolean false)).isPrefixOf text then
    some (.boolean false, text.drop 5)
  else (readNumeral text).map fun read => (.number read.1.value, read.2)

mutual

/-- The value a text starts with. -/
def readValue : Nat → Units → Option (JsValue × Units)
  | 0, _ => none
  | _ + 1, [] => none
  | fuel + 1, first :: rest =>
    if first = 34 then (readString rest).map fun read => (.string read.1, read.2)
    else if first = 91 then
      if (skipBlank rest).head? = some 93 then some (.array [], (skipBlank rest).tail)
      else (readItems fuel (skipBlank rest)).map fun read => (.array read.1, read.2)
    else if first = 123 then
      if (skipBlank rest).head? = some 125 then some (.object [], (skipBlank rest).tail)
      else (readMembers fuel (skipBlank rest)).map fun read => (.object (ownEntries read.1), read.2)
    else readScalar (first :: rest)

/-- The values of an array up to its closing bracket. -/
def readItems : Nat → Units → Option (List JsValue × Units)
  | 0, _ => none
  | fuel + 1, text =>
    match readValue fuel text with
    | none => none
    | some (item, after) =>
      match skipBlank after with
      | [] => none
      | mark :: rest =>
        if mark = 93 then some ([item], rest)
        else if mark = 44 then
          (readItems fuel (skipBlank rest)).map fun read => (item :: read.1, read.2)
        else none

/-- The members of an object up to its closing brace. -/
def readMembers : Nat → Units → Option (List (Units × JsValue) × Units)
  | 0, _ => none
  | _ + 1, [] => none
  | fuel + 1, quote :: inside =>
    if quote ≠ 34 then none
    else
      match readString inside with
      | none => none
      | some (key, afterKey) =>
        match skipBlank afterKey with
        | [] => none
        | colon :: value =>
          if colon ≠ 58 then none
          else
            match readValue fuel (skipBlank value) with
            | none => none
            | some (member, after) =>
              match skipBlank after with
              | [] => none
              | mark :: rest =>
                if mark = 125 then some ([(key, member)], rest)
                else if mark = 44 then
                  (readMembers fuel (skipBlank rest)).map fun read =>
                    ((key, member) :: read.1, read.2)
                else none

end

/-- The value of a whole text. -/
def jsonParse (text : Units) : Option JsValue :=
  match readValue text.length (skipBlank text) with
  | some (value, rest) => if skipBlank rest = [] then some value else none
  | none => none

theorem digitOf_unit (digit : Digit) : digitOf digit.unit = some digit := by
  revert digit
  decide

/-- A code unit that is a digit is the one the digit is written as. -/
theorem digitOf_spec {unit : UInt16} {digit : Digit} (read : digitOf unit = some digit) :
    unit = digit.unit := by
  unfold digitOf at read
  split at read
  · next within =>
    cases read
    apply UInt16.toNat_inj.mp
    simp only [Digit.unit, UInt16.toNat_ofNat']
    omega
  · cases read

/-- What follows a row of digits that ends there. -/
def EndsDigits (rest : Units) : Prop := ∀ unit ∈ rest.head?, digitOf unit = none

variable {rest : Units}

/-- Taking digits takes a whole row. -/
theorem takeDigits_text (digits : List Digit) (ends : EndsDigits rest) :
    takeDigits (digitsText digits ++ rest) = (digits, rest) := by
  induction digits with
  | nil =>
    cases rest with
    | nil => rfl
    | cons unit rest => simp [digitsText, takeDigits, ends unit rfl]
  | cons digit digits ih =>
    have tail : takeDigits (digits.map Digit.unit ++ rest) = (digits, rest) := ih
    simp [digitsText, takeDigits, digitOf_unit, tail]

/-- What is taken of a text is its start. -/
theorem takeDigits_split (text : Units) :
    text = digitsText (takeDigits text).1 ++ (takeDigits text).2 := by
  induction text with
  | nil => rfl
  | cons unit rest ih =>
    unfold takeDigits
    cases read : digitOf unit with
    | none => rfl
    | some digit =>
      simp only [digitsText, List.map_cons, List.cons_append] at ih ⊢
      rw [← ih, digitOf_spec read]

/-- What may follow a number that ends there. -/
def EndsNumeral (rest : Units) : Prop :=
  ∀ unit ∈ rest.head?, digitOf unit = none ∧ unit ≠ 46 ∧ unit ≠ 69 ∧ unit ≠ 101

theorem EndsNumeral.digits (ends : EndsNumeral rest) : EndsDigits rest :=
  fun unit first => (ends unit first).1

theorem Digit.unit_ne (digit : Digit) :
    digit.unit ≠ 43 ∧ digit.unit ≠ 45 ∧ digit.unit ≠ 46 ∧ digit.unit ≠ 69 ∧ digit.unit ≠ 101 := by
  revert digit
  decide

/-- A whole part is read back. -/
theorem readWhole_text (whole : WholePart) (ends : EndsDigits rest) :
    readWhole (digitsText whole.row ++ rest) = some (whole, rest) := by
  cases whole with
  | zero => simp [WholePart.row, digitsText, readWhole, digitOf_unit]
  | digits first row =>
    have tail : takeDigits (row.map Digit.unit ++ rest) = (row, rest) := takeDigits_text row ends
    simp [WholePart.row, digitsText, readWhole, digitOf_unit, Fin.succ_ne_zero, tail]

/-- What is read as a whole part is the start of the text. -/
theorem readWhole_split {text : Units} {whole : WholePart}
    (read : readWhole text = some (whole, rest)) : text = digitsText whole.row ++ rest := by
  cases text with
  | nil => cases read
  | cons unit after =>
    unfold readWhole at read
    cases first : digitOf unit with
    | none => simp [first] at read
    | some digit =>
      simp only [first] at read
      split at read
      · next zero =>
        cases read
        rw [digitOf_spec first, zero]
        rfl
      · next positive =>
        cases read
        simp only [WholePart.row, Fin.succ_pred, digitsText, List.map_cons, List.cons_append]
        rw [digitOf_spec first]
        exact congrArg _ (takeDigits_split after)

/-- A fraction is read back. -/
theorem readFraction_text (numeral : Numeral) (ends : EndsDigits rest)
    (unpointed : rest.head? ≠ some 46) :
    readFraction (numeral.fractionText ++ rest) = (numeral.fraction, rest) := by
  unfold Numeral.fractionText
  rcases numeral.fraction with _ | ⟨first, row⟩
  · rcases rest with _ | ⟨point, _ | ⟨unit, rest⟩⟩
    · rfl
    · rfl
    · have other : point ≠ 46 := fun same => unpointed (by rw [same]; rfl)
      simp [readFraction, other]
  · have tail : takeDigits (row.map Digit.unit ++ rest) = (row, rest) := takeDigits_text row ends
    simp [readFraction, digitsText, digitOf_unit, tail]

/-- What is read as a fraction is the start of the text. -/
theorem readFraction_split (text : Units) (numeral : Numeral)
    (same : numeral.fraction = (readFraction text).1) :
    text = numeral.fractionText ++ (readFraction text).2 := by
  unfold Numeral.fractionText
  rw [same]
  rcases text with _ | ⟨point, _ | ⟨unit, rest⟩⟩
  · rfl
  · rfl
  · unfold readFraction
    by_cases pointed : point = 46
    · cases first : digitOf unit with
      | none => simp [pointed, first]
      | some digit =>
        simp only [pointed, first, if_pos, digitsText, List.map_cons, List.cons_append]
        rw [digitOf_spec first]
        exact congrArg (fun tail => 46 :: digit.unit :: tail) (takeDigits_split rest)
    · simp [pointed]

/-- An exponent is read back. -/
theorem readExponent_text (numeral : Numeral) (ends : EndsNumeral rest) :
    readExponent (numeral.exponentText ++ rest) = (numeral.exponent, rest) := by
  unfold Numeral.exponentText
  rcases numeral.exponent with _ | ⟨upper, sign, first, row⟩
  · cases rest with
    | nil => rfl
    | cons unit rest =>
      obtain ⟨-, -, upper, lower⟩ := ends unit rfl
      simp [readExponent, upper, lower]
  · have tail : takeDigits (row.map Digit.unit ++ rest) = (row, rest) :=
      takeDigits_text row ends.digits
    have unsigned := first.unit_ne
    rcases sign with _ | _ | _ <;> cases upper <;>
      simp [ExponentPart.text, readExponent, readSign, digitsText, digitOf_unit, tail, unsigned]

/-- What is read as a sign is the start of the text. -/
theorem readSign_split (text : Units) :
    text = (match (readSign text).1 with
      | none => []
      | some minus => [if minus then 45 else 43]) ++ (readSign text).2 := by
  cases text with
  | nil => rfl
  | cons unit rest =>
    simp only [readSign]
    split_ifs with plus minus
    · simp [plus]
    · simp [minus]
    · rfl

/-- What is read as an exponent is the start of the text. -/
theorem readExponent_split (text : Units) (numeral : Numeral)
    (same : numeral.exponent = (readExponent text).1) :
    text = numeral.exponentText ++ (readExponent text).2 := by
  unfold Numeral.exponentText
  rw [same]
  cases text with
  | nil => rfl
  | cons letter rest =>
    have split := readSign_split rest
    simp only [readExponent]
    by_cases marked : letter = 69 ∨ letter = 101
    · simp only [if_pos marked]
      cases signed : (readSign rest).2 with
      | nil => rfl
      | cons unit last =>
        cases first : digitOf unit with
        | none => simp only [first]; rfl
        | some digit =>
          have letters : letter = if decide (letter = 69) then (69 : UInt16) else 101 := by
            rcases marked with upper | lower
            · simp [upper]
            · simp [lower]
          simp only [first, ExponentPart.text, List.cons_append, List.append_assoc]
          rw [← letters]
          congr 1
          rw [signed, digitOf_spec first] at split
          apply split.trans
          congr 1
          exact congrArg (digit.unit :: ·) (takeDigits_split last)
    · simp only [if_neg marked]
      rfl

/-- A number is read back. -/
theorem readNumeral_text (numeral : Numeral) (ends : EndsNumeral rest) :
    readNumeral (numeral.text ++ rest) = some (numeral, rest) := by
  have exponent := readExponent_text numeral ends
  -- Neither the exponent nor what follows the number continues a row of digits.
  have unpointed : (numeral.exponentText ++ rest).head? ≠ some 46
      ∧ EndsDigits (numeral.exponentText ++ rest) := by
    unfold Numeral.exponentText
    rcases numeral.exponent with _ | ⟨upper, sign, first, row⟩
    · exact ⟨fun first => (ends 46 first).2.1 rfl, ends.digits⟩
    · cases upper <;> exact ⟨by simp [ExponentPart.text], by simp [ExponentPart.text, EndsDigits]; decide⟩
  have fraction := readFraction_text numeral unpointed.2 unpointed.1
  have unmarked : EndsDigits (numeral.fractionText ++ (numeral.exponentText ++ rest)) := by
    unfold Numeral.fractionText
    rcases numeral.fraction with _ | ⟨first, row⟩
    · exact unpointed.2
    · simp [EndsDigits]
      decide
  have whole := readWhole_text numeral.whole unmarked
  have signed : decide ((numeral.text ++ rest).head? = some 45) = numeral.negative := by
    unfold Numeral.text
    cases numeral.negative with
    | true => rfl
    | false =>
      cases numeral.whole with
      | zero => rfl
      | digits first row => simp [WholePart.row, digitsText, Digit.unit_ne]
  have unsigned : (if numeral.negative then (numeral.text ++ rest).tail else numeral.text ++ rest)
      = digitsText numeral.whole.row
        ++ (numeral.fractionText ++ (numeral.exponentText ++ rest)) := by
    unfold Numeral.text
    cases numeral.negative <;> simp
  unfold readNumeral
  simp only [signed, unsigned, whole, fraction, exponent, Option.map_some]

/-- What is read as a number is the start of the text. -/
theorem readNumeral_split {text : Units} {numeral : Numeral}
    (read : readNumeral text = some (numeral, rest)) : text = numeral.text ++ rest := by
  unfold readNumeral at read
  dsimp only at read
  cases found : readWhole (if decide (text.head? = some 45) then text.tail else text) with
  | none =>
    rw [found] at read
    cases read
  | some whole =>
    rw [found, Option.map_some] at read
    obtain ⟨rfl, rfl⟩ := Prod.mk.inj (Option.some.inj read)
    have front := readWhole_split found
    have middle := readFraction_split whole.2
      { negative := decide (text.head? = some 45), whole := whole.1
        fraction := (readFraction whole.2).1
        exponent := (readExponent (readFraction whole.2).2).1 } rfl
    have back := readExponent_split (readFraction whole.2).2
      { negative := decide (text.head? = some 45), whole := whole.1
        fraction := (readFraction whole.2).1
        exponent := (readExponent (readFraction whole.2).2).1 } rfl
    unfold Numeral.text
    simp only [List.append_assoc]
    rw [← back, ← middle, ← front]
    by_cases signed : text.head? = some 45
    · cases text with
      | nil => cases signed
      | cons unit after =>
        cases signed
        rfl
    · simp [signed]

theorem hexOf_unit (digit : HexDigit) :
    ∃ read, hexOf digit.unit = some read ∧ read.value = digit.value := by
  obtain ⟨upper, value⟩ := digit
  have all : ∀ (upper : Bool) (value : Fin 16),
      (hexOf (HexDigit.unit ⟨upper, value⟩)).map HexDigit.value = some value := by decide
  exact Option.map_eq_some_iff.mp (all upper value)

/-- A code unit that is a hexadecimal digit is the one the digit is written as. -/
theorem hexOf_spec {unit : UInt16} {digit : HexDigit} (read : hexOf unit = some digit) :
    unit = digit.unit := by
  unfold hexOf at read
  dsimp only at read
  apply UInt16.toNat_inj.mp
  split at read
  · next within =>
    cases read
    have small : unit.toNat - 48 < 10 := by omega
    simp only [HexDigit.unit, small, if_pos, UInt16.toNat_ofNat']
    omega
  · split at read
    · next within =>
      cases read
      have large : ¬unit.toNat - 55 < 10 := by omega
      simp only [HexDigit.unit, large, if_neg, if_pos, not_false_iff, UInt16.toNat_ofNat']
      omega
    · split at read
      · next within =>
        cases read
        have large : ¬unit.toNat - 87 < 10 := by omega
        simp only [HexDigit.unit, large, if_neg, not_false_iff, Bool.false_eq_true,
          UInt16.toNat_ofNat']
        omega
      · cases read

theorem shortEscapeOf_mark (escape : ShortEscape) : shortEscapeOf escape.mark = some escape := by
  cases escape <;> rfl

theorem shortEscapeOf_spec {mark : UInt16} {escape : ShortEscape}
    (selected : shortEscapeOf mark = some escape) : mark = escape.mark := by
  unfold shortEscapeOf at selected
  split_ifs at selected <;> cases selected <;> assumption

/-- A string is read back up to its closing quotation mark. -/
theorem readString_text (pieces : StringSyntax) (rest : Units) :
    readString (pieces.flatMap Piece.text ++ 34 :: rest) = some (pieces.value, rest) := by
  induction pieces with
  | nil =>
    rw [List.flatMap_nil, List.nil_append, readString.eq_def]
    rfl
  | cons piece pieces ih =>
    rw [List.flatMap_cons, List.append_assoc]
    cases piece with
    | plain unit allowed =>
      have unquoted : unit ≠ 34 ∧ unit ≠ 92 := by
        simp only [isPlain, Bool.and_eq_true, bne_iff_ne] at allowed
        exact ⟨allowed.1.2, allowed.2⟩
      rw [Piece.text, List.singleton_append, readString.eq_def]
      simp [unquoted, allowed, ih, StringSyntax.value, Piece.unit]
    | short escape =>
      rw [Piece.text, List.cons_append, List.singleton_append, readString.eq_def]
      simp [shortEscapeOf_mark, ih, StringSyntax.value, Piece.unit]
    | hex first second third fourth =>
      obtain ⟨a, readA, valueA⟩ := hexOf_unit first
      obtain ⟨b, readB, valueB⟩ := hexOf_unit second
      obtain ⟨c, readC, valueC⟩ := hexOf_unit third
      obtain ⟨d, readD, valueD⟩ := hexOf_unit fourth
      have spelled : shortEscapeOf 117 = none := rfl
      simp only [Piece.text, List.cons_append, List.nil_append]
      rw [readString.eq_def]
      simp [spelled, readA, readB, readC, readD, valueA, valueB, valueC, valueD, ih,
        StringSyntax.value, Piece.unit]

/-- A string that starts with a piece is that piece before what the rest reads as. -/
theorem readString_piece (piece : Piece) {after value : Units}
    (split : ∀ {value rest}, readString after = some (value, rest) → ∃ pieces : StringSyntax, after = pieces.flatMap Piece.text ++ 34 :: rest ∧ pieces.value = value)
    (read : (readString after).map (fun read => (piece.unit :: read.1, read.2)) = some (value, rest)) :
    ∃ pieces : StringSyntax, piece.text ++ after = pieces.flatMap Piece.text ++ 34 :: rest
      ∧ pieces.value = value := by
  obtain ⟨⟨inner, tail⟩, found, joined⟩ := Option.map_eq_some_iff.mp read
  cases joined
  obtain ⟨pieces, apart, same⟩ := split found
  refine ⟨piece :: pieces, ?_, ?_⟩
  · rw [List.flatMap_cons, List.append_assoc, ← apart]
  · rw [← same]
    rfl

/-- What is read as a string is the start of the text. -/
theorem readString_split {text value : Units} (read : readString text = some (value, rest)) :
    ∃ pieces : StringSyntax, text = pieces.flatMap Piece.text ++ 34 :: rest
      ∧ pieces.value = value := by
  induction text using readString.induct generalizing value rest with
  | case1 =>
    rw [readString.eq_def] at read
    cases read
  | case2 after =>
    rw [readString.eq_def] at read
    cases read
    exact ⟨[], rfl, rfl⟩
  | case3 =>
    rw [readString.eq_def] at read
    cases read
  | case4 mark after escape selected unquoted ih =>
    rw [readString.eq_def] at read
    simp only [selected, unquoted, if_true, if_false] at read
    rw [shortEscapeOf_spec selected]
    exact readString_piece (.short escape) ih read
  | case5 first second third fourth last a b c d readD readC readB readA unquoted spelled ih =>
    rw [readString.eq_def] at read
    simp only [spelled, readA, readB, readC, readD, unquoted, if_true, if_false] at read
    rw [hexOf_spec readA, hexOf_spec readB, hexOf_spec readC, hexOf_spec readD]
    exact readString_piece (.hex a b c d) ih read
  | case6 first second third fourth last unread unquoted spelled =>
    rw [readString.eq_def] at read
    simp only [spelled, unquoted, if_true, if_false] at read
    cases read
  | case7 after short unquoted spelled =>
    rw [readString.eq_def] at read
    simp only [spelled, unquoted, if_true, if_false] at read
    cases read
  | case8 mark after unselected unspelled unquoted =>
    rw [readString.eq_def] at read
    simp only [unselected, unspelled, unquoted, if_true, if_false] at read
    cases read
  | case9 unit after unquoted unescaped allowed ih =>
    rw [readString.eq_def] at read
    simp only [unquoted, unescaped, allowed, if_true, if_false] at read
    exact readString_piece (.plain unit allowed) ih read
  | case10 unit after unquoted unescaped refused =>
    rw [readString.eq_def] at read
    simp only [unquoted, unescaped, refused, if_false] at read
    cases read

end Klura
