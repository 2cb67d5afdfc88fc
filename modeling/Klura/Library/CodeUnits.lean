import Klura.Library.Decimal

/-! Strings as the UTF-16 code units ECMAScript keeps them in, and their UTF-8 length. -/

namespace Klura

/-- A string, as its UTF-16 code units, of which surrogates need not pair. -/
abbrev Units : Type := List UInt16

instance unitsLawful : LawfulBEq Units := inferInstance

/-- The code units of a text without characters wider than one byte. -/
def ascii (text : String) : Units := (utf8 text).map UInt8.toUInt16

theorem forall_of_all {property : UInt16 → Prop} [DecidablePred property] {text : Units}
    (all : text.all (fun unit => decide (property unit)) = true) : ∀ unit ∈ text, property unit :=
  fun unit member => of_decide_eq_true (List.all_eq_true.mp all unit member)

/-- Whether a code unit is the first half of a pair. -/
def isHighSurrogate (unit : UInt16) : Bool := decide (0xD800 ≤ unit.toNat ∧ unit.toNat < 0xDC00)

/-- Whether a code unit is the second half of a pair. -/
def isLowSurrogate (unit : UInt16) : Bool := decide (0xDC00 ≤ unit.toNat ∧ unit.toNat < 0xE000)

/-- One character of a string: a surrogate pair, or a single code unit. -/
inductive CodePoint where
  | pair (high low : UInt16)
  | single (unit : UInt16)
  deriving DecidableEq

namespace CodePoint

/-- The code units of a character. -/
def units : CodePoint → Units
  | .pair high low => [high, low]
  | .single unit => [unit]

/-- Whether a character is half a pair. -/
def isLone : CodePoint → Bool
  | .pair .. => false
  | .single unit => isHighSurrogate unit || isLowSurrogate unit

/-- The bytes a character takes in UTF-8, where half a pair is replaced by three. -/
def utf8Length : CodePoint → Nat
  | .pair .. => 4
  | .single unit => if unit.toNat < 0x80 then 1 else if unit.toNat < 0x800 then 2 else 3

end CodePoint

/-- The characters of a string. -/
def codePoints : Units → List CodePoint
  | [] => []
  | [unit] => [.single unit]
  | first :: second :: rest =>
    if isHighSurrogate first && isLowSurrogate second then .pair first second :: codePoints rest
    else .single first :: codePoints (second :: rest)

/-- The bytes a string takes in UTF-8. -/
def utf8Length (text : Units) : Nat := ((codePoints text).map CodePoint.utf8Length).sum

/-- A string without half a pair. -/
def WellPaired (text : Units) : Prop := ∀ point ∈ codePoints text, point.isLone = false

/-- The characters of a string make it up. -/
theorem codePoints_units (text : Units) : (codePoints text).flatMap CodePoint.units = text := by
  induction text using codePoints.induct with
  | case1 => rfl
  | case2 unit => rfl
  | case3 first second rest paired ih =>
    rw [codePoints, if_pos paired, List.flatMap_cons, ih]
    rfl
  | case4 first second rest unpaired ih =>
    rw [codePoints, if_neg unpaired, List.flatMap_cons, ih]
    rfl

/-- A string that does not start with the second half of a pair can follow any other. -/
theorem codePoints_append (front back : Units)
    (apart : ∀ unit ∈ back.head?, isLowSurrogate unit = false) :
    codePoints (front ++ back) = codePoints front ++ codePoints back := by
  induction front using codePoints.induct with
  | case1 => rfl
  | case2 unit =>
    cases back with
    | nil => rfl
    | cons next rest =>
      have single : isLowSurrogate next = false := apart next rfl
      simp [codePoints, single]
  | case3 first second rest paired ih => simp [codePoints, paired, ih]
  | case4 first second rest unpaired ih =>
    simp only [List.cons_append] at ih
    simp only [List.cons_append, codePoints, unpaired, ih, if_false, Bool.false_eq_true]

theorem utf8Length_append (front back : Units)
    (apart : ∀ unit ∈ back.head?, isLowSurrogate unit = false) :
    utf8Length (front ++ back) = utf8Length front + utf8Length back := by
  unfold utf8Length
  rw [codePoints_append front back apart, List.map_append, List.sum_append]

end Klura
