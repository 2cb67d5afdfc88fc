import Klura.Contracts.StrictJson
import Klura.Library.Replacement

/-! The text JSON.stringify gives a value, and the texts of the strings in it. -/

namespace Klura

open StrictJson

mutual

/-- The text JSON.stringify gives a value, where members stand in the order of the object. -/
def jsonStringify : JsValue → Units
  | .null => ascii "null"
  | .boolean true => ascii "true"
  | .boolean false => ascii "false"
  | .number (.infinite _) => ascii "null"
  | .number (.finite negative magnitude) => numberText negative magnitude
  | .string text => StrictJson.stringText text
  | .array items => 91 :: (joinComma (stringifyItems items) ++ [93])
  | .object entries => 123 :: (joinComma (stringifyEntries entries) ++ [125])

/-- The texts of an array's values. -/
def stringifyItems : List JsValue → List Units
  | [] => []
  | item :: rest => jsonStringify item :: stringifyItems rest

/-- The texts of an object's members. -/
def stringifyEntries : List (Units × JsValue) → List Units
  | [] => []
  | (key, value) :: rest => StrictJson.entryText key (jsonStringify value) :: stringifyEntries rest

end

mutual

/-- The strings that a value holds at any depth, other than the keys of objects. -/
def stringsOf : JsValue → List Units
  | .null | .boolean _ | .number _ => []
  | .string text => [text]
  | .array items => itemStrings items
  | .object entries => entryStrings entries

/-- The strings that an array's values hold. -/
def itemStrings : List JsValue → List Units
  | [] => []
  | item :: rest => stringsOf item ++ itemStrings rest

/-- The strings that an object's values hold. -/
def entryStrings : List (Units × JsValue) → List Units
  | [] => []
  | (_, value) :: rest => stringsOf value ++ entryStrings rest

end

/-- A code unit that JSON.stringify writes as itself wherever it stands. -/
def writtenPlainly (unit : UInt16) : Prop := 32 ≤ unit.toNat ∧ unit.toNat < 127 ∧ unit ≠ 34 ∧ unit ≠ 92

instance (unit : UInt16) : Decidable (writtenPlainly unit) := inferInstanceAs (Decidable (_ ∧ _))

theorem writtenPlainly_single {unit : UInt16} (plain : writtenPlainly unit) :
    isHighSurrogate unit = false ∧ isLowSurrogate unit = false := by
  obtain ⟨_, low, _⟩ := plain
  simp only [isHighSurrogate, isLowSurrogate, decide_eq_false_iff_not]
  omega

theorem quoteUnit_plain {unit : UInt16} (plain : writtenPlainly unit) :
    (quoteUnit unit).text = [unit] := by
  have single := writtenPlainly_single plain
  obtain ⟨low, high, notQuote, notSlash⟩ := plain
  have control : ∀ code : UInt16, code.toNat < 32 → unit ≠ code := by
    intro code small same
    rw [same] at low
    omega
  have shown : isPlain unit = true := by simp [isPlain, low, notQuote, notSlash]
  simp [quoteUnit, control 8, control 9, control 10, control 12, control 13, notQuote, notSlash,
    single, plainUnit, shown, Piece.text]

variable {text : Units}

theorem codePoints_plain (plain : ∀ unit ∈ text, writtenPlainly unit) (back : Units) :
    codePoints (text ++ back) = text.map CodePoint.single ++ codePoints back := by
  induction text with
  | nil => rfl
  | cons unit rest ih =>
    have single := writtenPlainly_single (plain unit List.mem_cons_self)
    have later := ih fun other member => plain other (List.mem_cons_of_mem _ member)
    cases more : rest ++ back with
    | nil =>
      obtain ⟨rfl, rfl⟩ := List.append_eq_nil_iff.mp more
      rfl
    | cons next others =>
      rw [more] at later
      simp [more, codePoints, single.1, later]

theorem quotePoints_plain (plain : ∀ unit ∈ text, writtenPlainly unit) :
    ((text.map CodePoint.single).flatMap quotePoint).flatMap Piece.text = text := by
  induction text with
  | nil => rfl
  | cons unit rest ih =>
    have later := ih fun other member => plain other (List.mem_cons_of_mem _ member)
    simp only [List.map_cons, List.flatMap_cons, quotePoint, List.cons_append, List.nil_append,
      quoteUnit_plain (plain unit List.mem_cons_self), later]

theorem stringText_plain (plain : ∀ unit ∈ text, writtenPlainly unit) :
    StrictJson.stringText text = 34 :: (text ++ [34]) := by
  have points := codePoints_plain plain []
  rw [List.append_nil, codePoints, List.append_nil] at points
  rw [StrictJson.stringText, quoteString, StringSyntax.text, points, quotePoints_plain plain]

theorem stringText_part {part : Units} (plain : ∀ unit ∈ part, writtenPlainly unit)
    (inhabited : part ≠ []) (inside : part <:+: text) : part <:+: StrictJson.stringText text := by
  obtain ⟨front, back, rfl⟩ := inside
  have apart : ∀ unit ∈ (part ++ back).head?, isLowSurrogate unit = false := by
    intro unit first
    cases part with
    | nil => exact absurd rfl inhabited
    | cons initial rest =>
      obtain rfl : initial = unit := by simpa using first
      exact (writtenPlainly_single (plain initial List.mem_cons_self)).2
  have quoted := quotePoints_plain plain
  refine ⟨34 :: ((codePoints front).flatMap quotePoint).flatMap Piece.text,
    ((codePoints back).flatMap quotePoint).flatMap Piece.text ++ [34], ?_⟩
  simp only [StrictJson.stringText, quoteString, StringSyntax.text, List.append_assoc]
  rw [codePoints_append front (part ++ back) apart, codePoints_plain plain back]
  simp [List.flatMap_append, quoted]

theorem joinComma_part {text : Units} : ∀ {texts : List Units}, text ∈ texts →
    text <:+: joinComma texts
  | [only], member => by
    rw [List.mem_singleton] at member
    simp [joinComma, member]
  | first :: second :: rest, member => by
    rcases List.mem_cons.mp member with rfl | later
    · exact (List.prefix_append _ _).isInfix
    · have inside := joinComma_part later
      exact inside.trans ((List.suffix_cons 44 _).isInfix.trans (List.suffix_append first _).isInfix)

mutual

theorem stringsOf_part (value : JsValue) {text : Units} (member : text ∈ stringsOf value) :
    StrictJson.stringText text <:+: jsonStringify value := by
  cases value with
  | null | boolean _ | number _ => cases member
  | string own =>
    rw [stringsOf, List.mem_singleton] at member
    simp [jsonStringify, member]
  | array items =>
    obtain ⟨part, among, inside⟩ := itemStrings_part items member
    have held := inside.trans (joinComma_part among)
    exact held.trans ((List.prefix_append _ [93]).isInfix.trans (List.suffix_cons 91 _).isInfix)
  | object entries =>
    obtain ⟨part, among, inside⟩ := entryStrings_part entries member
    have held := inside.trans (joinComma_part among)
    exact held.trans ((List.prefix_append _ [125]).isInfix.trans (List.suffix_cons 123 _).isInfix)

theorem itemStrings_part (items : List JsValue) {text : Units} (member : text ∈ itemStrings items) :
    ∃ part ∈ stringifyItems items, StrictJson.stringText text <:+: part := by
  cases items with
  | nil => cases member
  | cons item rest =>
    rcases List.mem_append.mp member with first | later
    · exact ⟨_, List.mem_cons_self, stringsOf_part item first⟩
    · obtain ⟨part, among, inside⟩ := itemStrings_part rest later
      exact ⟨part, List.mem_cons_of_mem _ among, inside⟩

theorem entryStrings_part (entries : List (Units × JsValue)) {text : Units}
    (member : text ∈ entryStrings entries) :
    ∃ part ∈ stringifyEntries entries, StrictJson.stringText text <:+: part := by
  cases entries with
  | nil => cases member
  | cons entry rest =>
    obtain ⟨key, value⟩ := entry
    rcases List.mem_append.mp member with first | later
    · have inside := stringsOf_part value first
      refine ⟨_, List.mem_cons_self, inside.trans ?_⟩
      exact (List.suffix_cons 58 _).isInfix.trans
        (List.suffix_append (StrictJson.stringText key) _).isInfix
    · obtain ⟨part, among, inside⟩ := entryStrings_part rest later
      exact ⟨part, List.mem_cons_of_mem _ among, inside⟩

end

end Klura
