import Mathlib.Algebra.Order.Ring.Int
import Mathlib.Data.Rat.Defs

/-! Decimal numbers and the text ECMAScript writes them as. -/

namespace Klura

/-- The bytes of a text, a file or a digest's input. -/
abbrev Bytes : Type := List UInt8

/-- The UTF-8 bytes of a string. -/
def utf8 (text : String) : Bytes := text.toUTF8.data.toList

/-- A finite decimal number, the coefficient times a power of ten. -/
structure JsonNumber where
  coefficient : Int
  exponent : Int
  deriving DecidableEq

namespace JsonNumber

/-- The number an integer is. -/
def ofInt (value : Int) : JsonNumber :=
  { coefficient := value, exponent := 0 }

/-- The largest integer that a double holds exactly together with its neighbours. -/
def maxSafeInteger : Nat := 9007199254740991

/-- The integer a number denotes, when it is one that every arithmetic step keeps exact. -/
def safeInteger (value : JsonNumber) : Option Int :=
  -- A negative exponent is integral only when the coefficient absorbs it.
  let scaled : Option Int :=
    if 0 ≤ value.exponent then some (value.coefficient * 10 ^ value.exponent.toNat)
    else
      let divisor : Int := 10 ^ (-value.exponent).toNat
      if value.coefficient % divisor = 0 then some (value.coefficient / divisor) else none
  scaled.filter fun integer => decide (integer.natAbs ≤ maxSafeInteger)

/-- Decimal digits of a natural number, most significant first. -/
def digits (value : Nat) : Bytes :=
  (Nat.toDigits 10 value).map fun digit => UInt8.ofNat digit.toNat

/-- Moves the trailing zeros of a positive coefficient into the exponent. -/
def normalize : Nat → Nat → Int → Nat × Int
  | 0, coefficient, exponent => (coefficient, exponent)
  | fuel + 1, coefficient, exponent =>
    if coefficient ≠ 0 ∧ coefficient % 10 = 0 then
      normalize fuel (coefficient / 10) (exponent + 1)
    else (coefficient, exponent)

/-- The text ECMAScript gives a number, from its shortest digits and decimal exponent. -/
def text (value : JsonNumber) : Bytes :=
  let magnitude := value.coefficient.natAbs
  let normal := normalize magnitude magnitude value.exponent
  if normal.1 = 0 then utf8 "0"
  else
    let shortest := digits normal.1
    -- The point stands this many digits after the start of the shortest digits.
    let point : Int := shortest.length + normal.2
    let sign := if value.coefficient < 0 then utf8 "-" else []
    let zeros (count : Int) : Bytes := List.replicate count.toNat 48
    let body : Bytes :=
      if (shortest.length : Int) ≤ point ∧ point ≤ 21 then
        shortest ++ zeros (point - shortest.length)
      else if 0 < point ∧ point ≤ 21 then
        shortest.take point.toNat ++ utf8 "." ++ shortest.drop point.toNat
      else if -6 < point ∧ point ≤ 0 then
        utf8 "0." ++ zeros (-point) ++ shortest
      else
        -- Everything else is written with one leading digit and a signed exponent.
        let power := point - 1
        let mantissa := shortest.take 1 ++
          (if shortest.length = 1 then [] else utf8 "." ++ shortest.drop 1)
        mantissa ++ (if power < 0 then utf8 "e-" else utf8 "e+") ++ digits power.natAbs
    sign ++ body

/-- A power of ten, whose exponent may be negative. -/
def powTen (exponent : Int) : ℚ :=
  if 0 ≤ exponent then ((10 ^ exponent.toNat : Nat) : ℚ)
  else 1 / ((10 ^ (-exponent).toNat : Nat) : ℚ)

/-- The rational a decimal number denotes. -/
def rational (value : JsonNumber) : ℚ :=
  value.coefficient * powTen value.exponent

end JsonNumber

/-- A number is written with at least one digit. -/
theorem JsonNumber.text_pos (value : JsonNumber) : 0 < value.text.length := by
  have shortest (magnitude : Nat) : 0 < (JsonNumber.digits magnitude).length := by
    unfold JsonNumber.digits
    rw [List.length_map]
    exact Nat.length_toDigits_pos
  unfold JsonNumber.text
  dsimp only
  split
  · decide
  · rw [List.length_append]
    refine Nat.add_pos_right _ ?_
    split
    · rw [List.length_append]
      exact Nat.add_pos_left (shortest _) _
    · split
      · simp only [List.length_append]
        have point : 0 < (utf8 ".").length := by decide
        omega
      · split
        · simp only [List.length_append]
          have point : 0 < (utf8 "0.").length := by decide
          omega
        · rw [List.length_append]
          exact Nat.add_pos_right _ (shortest _)

end Klura
