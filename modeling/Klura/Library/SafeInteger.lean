import Klura.Library.JsonGrammar

/-! The integers below 2^53, each of which is a double of its own. -/

namespace Klura

variable {value place : Nat}

theorem integer_lt (small : value < 2 ^ 53) :
    value * 2 ^ place < 2 ^ (53 + place) := by
  rw [Nat.pow_add]
  exact Nat.mul_lt_mul_of_pos_right small (Nat.two_pow_pos _)

theorem integer_kept (small : value < 2 ^ 53) :
    2 ^ lastBit (value * 2 ^ place) ∣ value * 2 ^ place := by
  have within : lastBit (value * 2 ^ place) ≤ place := lastBit_le (integer_lt small)
  have unit : 2 ^ lastBit (value * 2 ^ place) ∣ 2 ^ place := Nat.pow_dvd_pow 2 within
  exact unit.trans (Nat.dvd_mul_left _ _)

theorem integer_bounded (small : value < 2 ^ 53) (low : 53 + place ≤ 2098) :
    value * 2 ^ place < 2 ^ 2098 :=
  (integer_lt small).trans_le (Nat.pow_le_pow_right (by decide) low)

theorem one_small : 1 < 2 ^ 53 := by decide

/-- A magnitude that is an integer below 2^53. -/
def Magnitude.ofNat (value : Nat) (small : value < 2 ^ 53) : Magnitude :=
  { units := value * unitsPerOne
    bounded := integer_bounded small (by decide)
    kept := integer_kept small }

/-- A double that is an integer below 2^53. -/
def Double.ofNat (value : Nat) (small : value < 2 ^ 53) : Double :=
  .finite false (.ofNat value small)

/-- Whether a value is a number and this one. -/
def JsValue.isNat (value : JsValue) (number : Nat) : Bool :=
  match value with
  | .number (.finite negative magnitude) =>
    magnitude.units == number * unitsPerOne && (!negative || number == 0)
  | _ => false

theorem JsValue.isNat_ofNat (value : Nat) (small : value < 2 ^ 53) :
    (JsValue.number (.ofNat value small)).isNat value = true := by
  simp [JsValue.isNat, Double.ofNat, Magnitude.ofNat]

end Klura
