import Klura.Contracts.StrictJson
import Klura.Library.Check

/-! The checks that contract parsers make of the fields of a JSON value. -/

namespace Klura

namespace StrictJson

/-- The own entries of a plain object. -/
abbrev Fields : Type := List (Units × JsValue)

/-- The path of a member of a field. -/
def memberField (field key : Units) : Units := field ++ ascii "." ++ key

/-- The value of an object's own member, when it has one. -/
def member (fields : Fields) (key : Units) : Option JsValue := OrderedMap.get? fields key

/-- An object with no more members than a bound. -/
def parseBoundedRecord (value : JsValue) (field : Units) (maximumEntries : Nat) :
    Except PublicContractError Fields :=
  match value with
  | .object fields =>
    if maximumEntries < fields.length then
      .error {
        field
        message := ascii "must contain at most " ++ natText maximumEntries ++ ascii " entries" }
    else .ok fields
  | _ => fail field "must be an object"

/-- An object with exactly these members, none of which every object inherits. -/
def parseExactRecord (value : JsValue) (field : Units) (allowedKeys : List Units) :
    Except PublicContractError Fields :=
  match value with
  | .object fields =>
    match fields.find? fun entry => decide (entry.1 ∉ allowedKeys) with
    | some entry => fail (memberField field entry.1) "is not allowed"
    | none =>
      match allowedKeys.find? fun key => (member fields key).isNone with
      | some key =>
        .error { field, message := ascii "is missing required key " ++ stringText key }
      | none => .ok fields
  | _ => fail field "must be an object"

/-- A string of no more bytes than a bound. -/
def parseString (value : JsValue) (field : Units) (maxBytes : Nat) :
    Except PublicContractError Units :=
  match value with
  | .string text =>
    if maxBytes < utf8Length text then
      .error {
        field
        message := ascii "must be at most " ++ natText maxBytes ++ ascii " UTF-8 bytes" }
    else .ok text
  | _ => fail field "must be a string"

/-- A string of ASCII characters. -/
def parseAsciiString (value : JsValue) (field : Units) (maxBytes : Nat) :
    Except PublicContractError Units := do
  let text ← parseString value field maxBytes
  if text.all fun unit => decide (unit.toNat ≤ 0x7F) then .ok text
  else fail field "must contain ASCII characters only"

/-- A string of ASCII characters that has a form. -/
def parseForm (form : Units → Bool) (message : String) (maxBytes : Nat) (value : JsValue)
    (field : Units) : Except PublicContractError Units := do
  let text ← parseAsciiString value field maxBytes
  if form text then .ok text else fail field message

/-- A string that has a form, whatever its length. -/
def parseMatch (form : Units → Bool) (message : String) (value : JsValue) (field : Units) :
    Except PublicContractError Units :=
  match value with
  | .string text => if form text then .ok text else fail field message
  | _ => fail field message

/-- An integer between bounds. -/
def parseInteger (value : JsValue) (field : Units) (minimum maximum : Nat) :
    Except PublicContractError Nat :=
  let refused : Except PublicContractError Nat := .error {
    field
    message :=
      ascii "must be an integer from " ++ natText minimum ++ ascii " to " ++ natText maximum }
  match value with
  | .number (.finite negative magnitude) =>
    let integer := magnitude.units / unitsPerOne
    -- A negative zero is a zero, and no other negative number is within the bounds.
    if magnitude.units % unitsPerOne = 0 ∧ (negative = false ∨ integer = 0) ∧ integer < 2 ^ 53 ∧
        minimum ≤ integer ∧ integer ≤ maximum then .ok integer
    else refused
  | _ => refused

/-- The values that the elements of an array are parsed as. -/
def parseElements {α : Type} (parse : JsValue → Units → Except PublicContractError α)
    (field : Units) : Nat → List JsValue → Except PublicContractError (List α)
  | _, [] => .ok []
  | index, item :: rest => do
    let value ← parse item (field ++ ascii "[" ++ natText index ++ ascii "]")
    let values ← parseElements parse field (index + 1) rest
    .ok (value :: values)

/-- Whether texts stand in strictly ascending order of their code units. -/
def isAscending : List Units → Bool
  | first :: second :: rest =>
    decide (first.map UInt16.toNat < second.map UInt16.toNat) && isAscending (second :: rest)
  | _ => true

/-- Checks that texts are in order and that none is there twice. -/
def assertCanonicalUnique (values : List Units) (field : Units) : Except PublicContractError Unit :=
  if ¬values.Nodup then fail field "must not contain duplicates"
  else if !isAscending values then fail field "must use canonical lexical order"
  else .ok ()

/-! The forms of identifiers, digests, versions and instants. -/

/-- Whether a code unit is a decimal digit. -/
def isDigit (unit : UInt16) : Bool := decide (48 ≤ unit.toNat ∧ unit.toNat ≤ 57)

/-- Whether a code unit is a lower-case letter. -/
def isLower (unit : UInt16) : Bool := decide (97 ≤ unit.toNat ∧ unit.toNat ≤ 122)

/-- Whether a code unit is an upper-case letter. -/
def isUpper (unit : UInt16) : Bool := decide (65 ≤ unit.toNat ∧ unit.toNat ≤ 90)

/-- Whether a code unit is a lower-case hexadecimal digit. -/
def isLowerHex (unit : UInt16) : Bool :=
  isDigit unit || decide (97 ≤ unit.toNat ∧ unit.toNat ≤ 102)

/-- Whether a text is so many lower-case hexadecimal digits. -/
def isHexOf (count : Nat) (text : Units) : Bool :=
  decide (text.length = count) && text.all isLowerHex

/-- Whether a text is a prefix with so many hexadecimal digits behind it. -/
def isTagged (tag : String) (count : Nat) (text : Units) : Bool :=
  (ascii tag).isPrefixOf text && isHexOf count (text.drop (ascii tag).length)

/-- Whether a text of at most sixty-four units begins and ends alike and has these units inside. -/
def isEdged (edge inside : UInt16 → Bool) (text : Units) : Bool :=
  decide (0 < text.length ∧ text.length ≤ 64) && text.head?.all edge && text.getLast?.all edge
    && text.all fun unit => edge unit || inside unit

/-- Whether a text is a lower-case package id. -/
def isPackageId (text : Units) : Bool :=
  isEdged (fun unit => isLower unit || isDigit unit) (fun unit => unit == 45) text

/-- Whether a text is a path-safe session name. -/
def isSessionName (text : Units) : Bool :=
  isEdged (fun unit => isLower unit || isDigit unit)
    (fun unit => unit == 45 || unit == 46 || unit == 95) text

/-- Whether a text is a snake_case identifier. -/
def isStableIdentifierText (text : Units) : Bool :=
  decide (text.length ≤ 64) &&
    match text with
    | [] => false
    | first :: rest => isLower first && rest.all fun unit => isLower unit || isDigit unit || unit == 95

/-- A package id. -/
def parsePackageId : JsValue → Units → Except PublicContractError Units :=
  parseForm isPackageId "must be a canonical lowercase package id" 64

/-- A session name. -/
def parseSessionName : JsValue → Units → Except PublicContractError Units :=
  parseForm isSessionName "must be a canonical path-safe session name" 64

/-- A contract id. -/
def parseStableContractId : JsValue → Units → Except PublicContractError Units :=
  parseForm isStableIdentifierText "must be a canonical lowercase snake_case identifier" 64

/-- A digest. -/
def parseSha256Digest : JsValue → Units → Except PublicContractError Units :=
  parseForm (isHexOf 64) "must be exactly 64 lowercase hexadecimal characters" 64

/-- A run id. -/
def parseRunId : JsValue → Units → Except PublicContractError Units :=
  parseMatch (isTagged "run_v1_" 32) "must be a canonical run id"

/-- A run operation id. -/
def parseRunOperationId : JsValue → Units → Except PublicContractError Units :=
  parseMatch (isTagged "op_v1_" 32) "must be a canonical run operation id"

/-! What the checks let pass. -/

variable {form : Units → Bool} {message : String} {field text : Units}

theorem parseForm_ok {maxBytes : Nat} {value : JsValue}
    (passes : parseForm form message maxBytes value field = .ok text) :
    value = .string text ∧ form text = true ∧ utf8Length text ≤ maxBytes ∧
      ∀ unit ∈ text, unit.toNat < 0x80 := by
  unfold parseForm parseAsciiString parseString at passes
  cases value with
  | string given =>
    simp only [bind, Except.bind] at passes
    by_cases large : maxBytes < utf8Length given
    · rw [if_pos large] at passes
      cases passes
    rw [if_neg large] at passes
    by_cases small : (given.all fun unit => decide (unit.toNat ≤ 0x7F)) = true
    · simp only [small, if_true] at passes
      by_cases shaped : form given = true
      · rw [if_pos shaped] at passes
        cases passes
        rw [List.all_eq_true] at small
        exact ⟨rfl, shaped, Nat.le_of_not_lt large, fun unit member =>
          Nat.lt_succ_of_le (of_decide_eq_true (small unit member))⟩
      · rw [if_neg shaped] at passes
        cases passes
    · simp only [small] at passes
      cases passes
  | _ => cases passes

theorem parseForm_string {maxBytes : Nat} (shaped : form text = true)
    (short : utf8Length text ≤ maxBytes) (small : ∀ unit ∈ text, unit.toNat < 0x80) :
    parseForm form message maxBytes (.string text) field = .ok text := by
  have every : (text.all fun unit => decide (unit.toNat ≤ 0x7F)) = true := by
    rw [List.all_eq_true]
    intro unit member
    exact decide_eq_true (Nat.le_of_lt_succ (small unit member))
  unfold parseForm parseAsciiString StrictJson.parseString
  simp only [bind, Except.bind, if_neg (Nat.not_lt.mpr short), every, if_true, shaped]

theorem parseMatch_ok {value : JsValue} (passes : parseMatch form message value field = .ok text) :
    value = .string text ∧ form text = true := by
  unfold parseMatch at passes
  cases value with
  | string given =>
    dsimp only at passes
    split_ifs at passes with shaped
    · cases passes
      exact ⟨rfl, shaped⟩
    · cases passes
  | _ => cases passes

theorem parseMatch_string {form : Units → Bool} {message : String} {field text : Units}
    (shaped : form text = true) : parseMatch form message (.string text) field = .ok text :=
  if_pos shaped

theorem parseElements_ok {α : Type} {parse : JsValue → Units → Except PublicContractError α}
    {index : Nat} {items : List JsValue} {values : List α}
    (parses : parseElements parse field index items = .ok values) :
    ∀ value ∈ values, ∃ item place, parse item place = .ok value := by
  induction items generalizing index values with
  | nil =>
    cases parses
    exact nofun
  | cons item rest ih =>
    rw [parseElements, bind_ok] at parses
    obtain ⟨first, own, parses⟩ := parses
    obtain ⟨later, others, same⟩ := bind_ok.mp parses
    cases same
    intro value member
    rcases List.mem_cons.mp member with rfl | inside
    · exact ⟨item, _, own⟩
    · exact ih others value inside

/-- A record that has exactly the members it may have passes. -/
theorem parseExactRecord_ok {fields : Fields} {allowedKeys : List Units} :
    parseExactRecord (.object fields) field allowedKeys = .ok fields ↔
      (∀ entry ∈ fields, entry.1 ∈ allowedKeys) ∧
        ∀ key ∈ allowedKeys, (member fields key).isSome = true := by
  unfold parseExactRecord
  dsimp only
  cases extra : fields.find? fun entry => decide (entry.1 ∉ allowedKeys) with
  | some entry =>
    have outside := List.find?_some extra
    have inside := List.mem_of_find?_eq_some extra
    constructor
    · nofun
    · intro all
      exact absurd (all.1 entry inside) (of_decide_eq_true outside)
  | none =>
    have allowed : ∀ entry ∈ fields, entry.1 ∈ allowedKeys := by
      intro entry inside
      have found := List.find?_eq_none.mp extra entry inside
      simpa using found
    cases missing : allowedKeys.find? fun key => (member fields key).isNone with
    | some key =>
      have absent := List.find?_some missing
      have wanted := List.mem_of_find?_eq_some missing
      constructor
      · nofun
      · intro all
        have present := all.2 key wanted
        rw [Option.isNone_iff_eq_none] at absent
        rw [absent] at present
        cases present
    | none =>
      refine iff_of_true rfl ⟨allowed, fun key wanted => ?_⟩
      have found := List.find?_eq_none.mp missing key wanted
      rw [Option.isSome_iff_ne_none]
      simpa using found

end StrictJson

end Klura
