import Klura.Library.Binary64
import Klura.Library.CodeUnits
import Klura.Library.OrderedMap
import Mathlib.Data.List.Sort

/-! The JSON grammar as syntax trees: what each is written as, and the value it stands for. -/

namespace Klura

/-- A decimal digit. -/
abbrev Digit : Type := Fin 10

instance tenNeZero : NeZero 10 := inferInstance

/-- The code unit of a digit. -/
def Digit.unit (digit : Digit) : UInt16 := UInt16.ofNat (48 + digit.val)

/-- The text of a row of digits. -/
def digitsText (digits : List Digit) : Units := digits.map Digit.unit

/-- The number a row of digits denotes. -/
def digitsValue (digits : List Digit) : Nat :=
  digits.foldl (fun value digit => 10 * value + digit.val) 0

/-- The whole part of a number, which has no leading zero. -/
inductive WholePart where
  | zero
  | digits (first : Fin 9) (rest : List Digit)

/-- The digits of a whole part. -/
def WholePart.row : WholePart → List Digit
  | .zero => [0]
  | .digits first rest => first.succ :: rest

/-- The exponent of a number, with the letter and the sign it is written with. -/
structure ExponentPart where
  upper : Bool
  sign : Option Bool
  first : Digit
  rest : List Digit

/-- The text of an exponent. -/
def ExponentPart.text (part : ExponentPart) : Units :=
  (if part.upper then 69 else 101) ::
    ((match part.sign with
      | none => []
      | some minus => [if minus then 45 else 43]) ++ digitsText (part.first :: part.rest))

/-- The power of ten an exponent stands for. -/
def ExponentPart.value (part : ExponentPart) : Int :=
  let magnitude : Int := digitsValue (part.first :: part.rest)
  if part.sign = some true then -magnitude else magnitude

/-- A number as it is written. -/
structure Numeral where
  negative : Bool
  whole : WholePart
  fraction : Option (Digit × List Digit)
  exponent : Option ExponentPart

namespace Numeral

/-- The digits behind the point of a number. -/
def fractionRow (numeral : Numeral) : List Digit :=
  match numeral.fraction with
  | none => []
  | some (first, rest) => first :: rest

/-- The text of the part behind the point. -/
def fractionText (numeral : Numeral) : Units :=
  match numeral.fraction with
  | none => []
  | some (first, rest) => 46 :: digitsText (first :: rest)

/-- The text of the exponent, when there is one. -/
def exponentText (numeral : Numeral) : Units :=
  match numeral.exponent with
  | none => []
  | some part => part.text

/-- The text of a number. -/
def text (numeral : Numeral) : Units :=
  (if numeral.negative then [45] else []) ++
    (digitsText numeral.whole.row ++ (numeral.fractionText ++ numeral.exponentText))

/-- The decimal number written, without its sign. -/
def magnitude (numeral : Numeral) : JsonNumber :=
  { coefficient := digitsValue (numeral.whole.row ++ numeral.fractionRow)
    exponent := (match numeral.exponent with
      | none => 0
      | some part => part.value) - numeral.fractionRow.length }

/-- The double a number is read as. -/
def value (numeral : Numeral) : Double :=
  .nearest numeral.negative numeral.magnitude.rational

end Numeral

/-- A hexadecimal digit, in upper or lower case. -/
structure HexDigit where
  upper : Bool
  value : Fin 16

/-- The code unit of a hexadecimal digit. -/
def HexDigit.unit (digit : HexDigit) : UInt16 :=
  if digit.value.val < 10 then UInt16.ofNat (48 + digit.value.val)
  else UInt16.ofNat ((if digit.upper then 55 else 87) + digit.value.val)

/-- The characters that have an escape of their own. -/
inductive ShortEscape where
  | quotation
  | backslash
  | slash
  | backspace
  | formFeed
  | lineFeed
  | carriageReturn
  | tab

namespace ShortEscape

/-- The code unit that follows the backslash. -/
def mark : ShortEscape → UInt16
  | .quotation => 34
  | .backslash => 92
  | .slash => 47
  | .backspace => 98
  | .formFeed => 102
  | .lineFeed => 110
  | .carriageReturn => 114
  | .tab => 116

/-- The code unit the escape stands for. -/
def unit : ShortEscape → UInt16
  | .quotation => 34
  | .backslash => 92
  | .slash => 47
  | .backspace => 8
  | .formFeed => 12
  | .lineFeed => 10
  | .carriageReturn => 13
  | .tab => 9

end ShortEscape

/-- Whether a code unit stands for itself inside a string. -/
def isPlain (unit : UInt16) : Bool := decide (32 ≤ unit.toNat) && unit != 34 && unit != 92

/-- The code unit that four hexadecimal digits spell. -/
def hexUnit (first second third fourth : Fin 16) : UInt16 :=
  UInt16.ofNat (((first.val * 16 + second.val) * 16 + third.val) * 16 + fourth.val)

/-- One code unit of a string as it is written. -/
inductive Piece where
  | plain (unit : UInt16) (allowed : isPlain unit = true)
  | short (escape : ShortEscape)
  | hex (first second third fourth : HexDigit)

namespace Piece

/-- The text of a piece. -/
def text : Piece → Units
  | .plain unit _ => [unit]
  | .short escape => [92, escape.mark]
  | .hex first second third fourth =>
    [92, 117, first.unit, second.unit, third.unit, fourth.unit]

/-- The code unit a piece stands for. -/
def unit : Piece → UInt16
  | .plain unit _ => unit
  | .short escape => escape.unit
  | .hex first second third fourth =>
    hexUnit first.value second.value third.value fourth.value

end Piece

/-- A string as it is written between its quotation marks. -/
abbrev StringSyntax : Type := List Piece

/-- The text of a string, quotation marks included. -/
def StringSyntax.text (pieces : StringSyntax) : Units :=
  34 :: (pieces.flatMap Piece.text ++ [34])

/-- The string that is written. -/
def StringSyntax.value (pieces : StringSyntax) : Units := pieces.map Piece.unit

/-- A blank between the parts of a text. -/
inductive BlankUnit where
  | space
  | tab
  | lineFeed
  | carriageReturn

/-- The code unit of a blank. -/
def BlankUnit.unit : BlankUnit → UInt16
  | .space => 32
  | .tab => 9
  | .lineFeed => 10
  | .carriageReturn => 13

/-- A row of blanks. -/
abbrev Blank : Type := List BlankUnit

/-- The text of a row of blanks. -/
def Blank.text (blank : Blank) : Units := blank.map BlankUnit.unit

mutual

/-- A JSON value as it is written. -/
inductive JsonSyntax where
  | null
  | boolean (value : Bool)
  | number (numeral : Numeral)
  | string (pieces : StringSyntax)
  | emptyArray (inside : Blank)
  | array (items : ItemsSyntax)
  | emptyObject (inside : Blank)
  | object (members : MembersSyntax)

/-- The values of an array that has some, with the blanks around each. -/
inductive ItemsSyntax where
  | last (before : Blank) (item : JsonSyntax) (after : Blank)
  | more (before : Blank) (item : JsonSyntax) (after : Blank) (rest : ItemsSyntax)

/-- The members of an object that has some, with the blanks around each part. -/
inductive MembersSyntax where
  | last (before : Blank) (key : StringSyntax) (colon : Blank) (between : Blank)
    (value : JsonSyntax) (after : Blank)
  | more (before : Blank) (key : StringSyntax) (colon : Blank) (between : Blank)
    (value : JsonSyntax) (after : Blank) (rest : MembersSyntax)

end

mutual

/-- The text of a value. -/
def JsonSyntax.text : JsonSyntax → Units
  | .null => [110, 117, 108, 108]
  | .boolean value => if value then [116, 114, 117, 101] else [102, 97, 108, 115, 101]
  | .number numeral => numeral.text
  | .string pieces => pieces.text
  | .emptyArray inside => 91 :: (inside.text ++ [93])
  | .array items => 91 :: items.text
  | .emptyObject inside => 123 :: (inside.text ++ [125])
  | .object members => 123 :: members.text

/-- The text of an array's values and its closing bracket. -/
def ItemsSyntax.text : ItemsSyntax → Units
  | .last before item after => before.text ++ (item.text ++ (after.text ++ [93]))
  | .more before item after rest => before.text ++ (item.text ++ (after.text ++ 44 :: rest.text))

/-- The text of an object's members and its closing brace. -/
def MembersSyntax.text : MembersSyntax → Units
  | .last before key colon between value after =>
    before.text ++ (key.text ++ (colon.text ++ 58 ::
      (between.text ++ (value.text ++ (after.text ++ [125])))))
  | .more before key colon between value after rest =>
    before.text ++ (key.text ++ (colon.text ++ 58 ::
      (between.text ++ (value.text ++ (after.text ++ 44 :: rest.text)))))

end

/-- A JavaScript value of the kinds JSON has, whose objects list their own keys in order. -/
inductive JsValue where
  | null
  | boolean (value : Bool)
  | number (value : Double)
  | string (value : Units)
  | array (items : List JsValue)
  | object (entries : List (Units × JsValue))

/-- The index a key is, when it is one that ordinary objects list in numeric order. -/
def arrayIndex (key : Units) : Option Nat :=
  let digits := key.filterMap fun unit =>
    if decide (48 ≤ unit.toNat ∧ unit.toNat ≤ 57) then some (unit.toNat - 48) else none
  let value := digits.foldl (fun value digit => 10 * value + digit) 0
  if digits.length = key.length ∧ key ≠ [] ∧ (key.head? ≠ some 48 ∨ key = [48])
      ∧ value < 4294967295 then some value
  else none

/-- Whether the first of two entries' keys is the smaller index. -/
def indexBefore (left right : Units × JsValue) : Bool :=
  match arrayIndex left.1, arrayIndex right.1 with
  | some first, some second => decide (first ≤ second)
  | _, _ => true

/-- The own entries of an object that was assigned these members one after another. -/
def ownEntries (members : List (Units × JsValue)) : List (Units × JsValue) :=
  -- A repeated key keeps its first place and its last value.
  let assigned : List (Units × JsValue) :=
    members.foldl (fun entries member => OrderedMap.set entries member.1 member.2) []
  -- Indices are listed first, in numeric order, and other keys in the order of assignment.
  (assigned.filter fun entry => (arrayIndex entry.1).isSome).insertionSort
      (fun left right => indexBefore left right)
    ++ assigned.filter fun entry => (arrayIndex entry.1).isNone

mutual

/-- The value that is written. -/
def JsonSyntax.value : JsonSyntax → JsValue
  | .null => .null
  | .boolean value => .boolean value
  | .number numeral => .number numeral.value
  | .string pieces => .string pieces.value
  | .emptyArray _ => .array []
  | .array items => .array items.values
  | .emptyObject _ => .object []
  | .object members => .object (ownEntries members.entries)

/-- The values of an array. -/
def ItemsSyntax.values : ItemsSyntax → List JsValue
  | .last _ item _ => [item.value]
  | .more _ item _ rest => item.value :: rest.values

/-- The members of an object as they are written. -/
def MembersSyntax.entries : MembersSyntax → List (Units × JsValue)
  | .last _ key _ _ value _ => [(key.value, value.value)]
  | .more _ key _ _ value _ rest => (key.value, value.value) :: rest.entries

end

/-- The keys of an object as they are written. -/
def MembersSyntax.keys : MembersSyntax → List Units
  | .last _ key _ _ _ _ => [key.value]
  | .more _ key _ _ _ _ rest => key.value :: rest.keys

mutual

/-- How many levels of containers a text nests below its own. -/
def JsonSyntax.depth : JsonSyntax → Nat
  | .null | .boolean _ | .number _ | .string _ | .emptyArray _ | .emptyObject _ => 0
  | .array items => items.depth + 1
  | .object members => members.depth + 1

/-- The deepest nesting among an array's values. -/
def ItemsSyntax.depth : ItemsSyntax → Nat
  | .last _ item _ => item.depth
  | .more _ item _ rest => max item.depth rest.depth

/-- The deepest nesting among an object's members. -/
def MembersSyntax.depth : MembersSyntax → Nat
  | .last _ _ _ _ value _ => value.depth
  | .more _ _ _ _ value _ rest => max value.depth rest.depth

end

mutual

/-- Whether no object of a text repeats a key. -/
def JsonSyntax.KeysDistinct : JsonSyntax → Prop
  | .null | .boolean _ | .number _ | .string _ | .emptyArray _ | .emptyObject _ => True
  | .array items => items.KeysDistinct
  | .object members => members.keys.Nodup ∧ members.KeysDistinct

/-- Whether no object among an array's values repeats a key. -/
def ItemsSyntax.KeysDistinct : ItemsSyntax → Prop
  | .last _ item _ => item.KeysDistinct
  | .more _ item _ rest => item.KeysDistinct ∧ rest.KeysDistinct

/-- Whether no object among an object's values repeats a key. -/
def MembersSyntax.KeysDistinct : MembersSyntax → Prop
  | .last _ _ _ _ value _ => value.KeysDistinct
  | .more _ _ _ _ value _ rest => value.KeysDistinct ∧ rest.KeysDistinct

end

/-- A whole text: a value with blanks around it. -/
structure JsonText where
  before : Blank
  value : JsonSyntax
  after : Blank

/-- The code units of a whole text. -/
def JsonText.text (whole : JsonText) : Units :=
  whole.before.text ++ (whole.value.text ++ whole.after.text)

end Klura
