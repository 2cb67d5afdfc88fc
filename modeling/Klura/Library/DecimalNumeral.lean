import Klura.Library.JsonGrammar
import Mathlib.Tactic.FieldSimp

/-! The text ECMAScript writes a decimal as is a JSON number that denotes the same decimal. -/

namespace Klura

/-- The decimal digits of a natural number. -/
def digitRow (value : Nat) : List Digit :=
  if value < 10 then [Fin.ofNat 10 value]
  else digitRow (value / 10) ++ [Fin.ofNat 10 (value % 10)]
termination_by value

theorem digitsValue_append (digits : List Digit) (last : Digit) :
    digitsValue (digits ++ [last]) = 10 * digitsValue digits + last.val := by
  simp [digitsValue]

/-- A row of digits followed by another one. -/
theorem digitsValue_concat (front back : List Digit) :
    digitsValue (front ++ back) = digitsValue front * 10 ^ back.length + digitsValue back := by
  induction back using List.reverseRecOn with
  | nil => simp [digitsValue]
  | append_singleton back last ih =>
    rw [← List.append_assoc, digitsValue_append, ih, digitsValue_append, List.length_append,
      List.length_singleton, Nat.pow_succ]
    ring

theorem digitsValue_zeros (count : Nat) : digitsValue (List.replicate count (0 : Digit)) = 0 := by
  induction count with
  | zero => rfl
  | succ count ih =>
    rw [List.replicate_succ', digitsValue_append, ih]
    rfl

/-- The digits of a number denote it. -/
theorem digitsValue_row (value : Nat) : digitsValue (digitRow value) = value := by
  induction value using digitRow.induct with
  | case1 value small =>
    rw [digitRow, if_pos small]
    simp [digitsValue, Fin.ofNat, Nat.mod_eq_of_lt small]
  | case2 value large ih =>
    rw [digitRow, if_neg large, digitsValue_append, ih]
    simp only [Fin.ofNat]
    omega

/-- The digits of a number above zero start with one that is not zero. -/
theorem digitRow_starts {value : Nat} (positive : 0 < value) :
    ∃ (first : Fin 9) (rest : List Digit), digitRow value = first.succ :: rest := by
  induction value using digitRow.induct with
  | case1 value small =>
    rw [digitRow, if_pos small]
    refine ⟨⟨value - 1, by omega⟩, [], ?_⟩
    simp only [List.cons.injEq, and_true, Fin.ext_iff, Fin.ofNat, Fin.val_succ]
    omega
  | case2 value large ih =>
    obtain ⟨first, rest, row⟩ := ih (by omega)
    rw [digitRow, if_neg large, row]
    exact ⟨first, _, rfl⟩

theorem digitChar_unit : ∀ value : Fin 10,
    (UInt8.ofNat (Nat.digitChar value.val).toNat).toUInt16 = Digit.unit value := by
  decide

/-- The digits of a number are written as its text. -/
theorem digitRow_text (value : Nat) :
    digitsText (digitRow value) = (JsonNumber.digits value).map UInt8.toUInt16 := by
  have single : ∀ small, small < 10 → Digit.unit (Fin.ofNat 10 small)
      = (UInt8.ofNat (Nat.digitChar small).toNat).toUInt16 := by
    intro small within
    have digit := digitChar_unit ⟨small, within⟩
    rw [digit]
    congr 1
    exact Fin.ext (Nat.mod_eq_of_lt within)
  induction value using digitRow.induct with
  | case1 value small =>
    rw [digitRow, if_pos small, JsonNumber.digits, Nat.toDigits_of_lt_base small]
    simp only [digitsText, List.map_cons, List.map_nil, single value small]
  | case2 value large ih =>
    rw [digitRow, if_neg large, JsonNumber.digits,
      Nat.toDigits_of_base_le (by decide) (Nat.le_of_not_lt large)]
    simp only [digitsText, JsonNumber.digits, List.map_append, List.map_cons, List.map_nil] at ih ⊢
    rw [ih, single (value % 10) (Nat.mod_lt _ (by decide))]

theorem digitRow_length (value : Nat) : (digitRow value).length = (JsonNumber.digits value).length := by
  have same := congrArg List.length (digitRow_text value)
  simpa [digitsText] using same

/-- The whole part that a row of digits is, when no zero leads it. -/
def wholeOf : List Digit → WholePart
  | [] => .zero
  | first :: rest => if nonzero : first ≠ 0 then .digits (first.pred nonzero) rest else .zero

theorem wholeOf_row (first : Fin 9) (rest : List Digit) :
    (wholeOf (first.succ :: rest)).row = first.succ :: rest := by
  simp [wholeOf, WholePart.row, Fin.succ_ne_zero]

/-- The fraction that a row of digits is, when there are some. -/
def fractionOf : List Digit → Option (Digit × List Digit)
  | [] => none
  | first :: rest => some (first, rest)

/-- The exponent of a power of ten, which always has a sign. -/
def exponentOf (power : Int) : ExponentPart :=
  match digitRow power.natAbs with
  | [] => { upper := false, sign := some (decide (power < 0)), first := 0, rest := [] }
  | first :: rest => { upper := false, sign := some (decide (power < 0)), first, rest }

theorem digitRow_ne_nil (value : Nat) : digitRow value ≠ [] := by
  rw [digitRow]
  split <;> simp

/-- An exponent is the power it was written for. -/
theorem exponentOf_value (power : Int) : (exponentOf power).value = power := by
  have row := digitsValue_row power.natAbs
  cases split : digitRow power.natAbs with
  | nil => exact absurd split (digitRow_ne_nil _)
  | cons first rest =>
    rw [split] at row
    simp only [exponentOf, split, ExponentPart.value, row]
    by_cases negative : power < 0
    · simp only [negative, decide_true, if_true]
      omega
    · simp only [negative, decide_false, Option.some.injEq, Bool.false_eq_true, if_false]
      omega

/-- The text of an exponent is its sign and its digits. -/
theorem exponentOf_text (power : Int) :
    (exponentOf power).text
      = ((if power < 0 then utf8 "e-" else utf8 "e+") ++ JsonNumber.digits power.natAbs).map
        UInt8.toUInt16 := by
  have signs : (utf8 "e-").map UInt8.toUInt16 = [101, 45]
      ∧ (utf8 "e+").map UInt8.toUInt16 = [101, 43] := by decide
  rw [List.map_append, ← digitRow_text]
  cases split : digitRow power.natAbs with
  | nil => exact absurd split (digitRow_ne_nil _)
  | cons first rest =>
    simp only [exponentOf, split, ExponentPart.text]
    by_cases negative : power < 0
    · simp [negative, signs]
    · simp [negative, signs]

/-- Moving trailing zeros into the exponent leaves the decimal as it is. -/
theorem JsonNumber.normalize_rational (fuel coefficient : Nat) (exponent : Int) :
    ((JsonNumber.normalize fuel coefficient exponent).1 : ℚ)
        * (10 : ℚ) ^ (JsonNumber.normalize fuel coefficient exponent).2
      = coefficient * (10 : ℚ) ^ exponent := by
  induction fuel generalizing coefficient exponent with
  | zero => rfl
  | succ fuel ih =>
    unfold JsonNumber.normalize
    split_ifs with zeros
    · have whole : coefficient = 10 * (coefficient / 10) := by omega
      have cast : (coefficient : ℚ) = 10 * ((coefficient / 10 : Nat) : ℚ) := by exact_mod_cast whole
      rw [ih, zpow_add_one₀ (by norm_num), cast]
      ring
    · rfl

/-- A coefficient above zero stays above zero. -/
theorem JsonNumber.normalize_eq_zero (fuel coefficient : Nat) (exponent : Int) :
    (JsonNumber.normalize fuel coefficient exponent).1 = 0 ↔ coefficient = 0 := by
  induction fuel generalizing coefficient exponent with
  | zero => rfl
  | succ fuel ih =>
    unfold JsonNumber.normalize
    split_ifs with zeros
    · rw [ih]
      omega
    · rfl

/-- The JSON number that a decimal is written as. -/
def JsonNumber.numeral (value : JsonNumber) : Numeral :=
  let magnitude := value.coefficient.natAbs
  let normal := JsonNumber.normalize magnitude magnitude value.exponent
  if normal.1 = 0 then { negative := false, whole := .zero, fraction := none, exponent := none }
  else
    let shortest := digitRow normal.1
    let point : Int := shortest.length + normal.2
    let negative := decide (value.coefficient < 0)
    if (shortest.length : Int) ≤ point ∧ point ≤ 21 then
      { negative
        whole := wholeOf (shortest ++ List.replicate (point - shortest.length).toNat 0)
        fraction := none
        exponent := none }
    else if 0 < point ∧ point ≤ 21 then
      { negative
        whole := wholeOf (shortest.take point.toNat)
        fraction := fractionOf (shortest.drop point.toNat)
        exponent := none }
    else if -6 < point ∧ point ≤ 0 then
      { negative
        whole := .zero
        fraction := fractionOf (List.replicate (-point).toNat 0 ++ shortest)
        exponent := none }
    else
      { negative
        whole := wholeOf (shortest.take 1)
        fraction := fractionOf (shortest.drop 1)
        exponent := some (exponentOf (point - 1)) }

variable {row : List Digit}

theorem fractionRow_of (numeral : Numeral) (fraction : numeral.fraction = fractionOf row) :
    numeral.fractionRow = row := by
  unfold Numeral.fractionRow
  rw [fraction]
  cases row <;> rfl

theorem fractionText_of (numeral : Numeral) (fraction : numeral.fraction = fractionOf row) :
    numeral.fractionText = if row = [] then [] else 46 :: digitsText row := by
  unfold Numeral.fractionText
  rw [fraction]
  cases row <;> rfl

/-- The sign of a decimal is written. -/
theorem JsonNumber.numeral_negative (value : JsonNumber) :
    value.numeral.negative = decide (value.coefficient < 0) := by
  unfold JsonNumber.numeral
  dsimp only
  split_ifs with zero
  · rw [JsonNumber.normalize_eq_zero] at zero
    have : value.coefficient = 0 := Int.natAbs_eq_zero.mp zero
    simp [this]
  all_goals rfl

variable {rest : List Digit}

theorem wholeOf_take {first : Fin 9} (starts : row = first.succ :: rest) {count : Nat}
    (some : 0 < count) :
    (wholeOf (row.take count)).row = row.take count := by
  obtain ⟨fewer, rfl⟩ : ∃ fewer, count = fewer + 1 := ⟨count - 1, by omega⟩
  rw [starts, List.take_succ_cons, wholeOf_row]

theorem wholeOf_append {first : Fin 9} (starts : row = first.succ :: rest) (more : List Digit) :
    (wholeOf (row ++ more)).row = row ++ more := by
  rw [starts, List.cons_append, wholeOf_row]

/-- The JSON number a decimal is written as denotes its magnitude. -/
theorem JsonNumber.numeral_magnitude (value : JsonNumber) :
    value.numeral.magnitude.rational
      = (value.coefficient.natAbs : ℚ) * (10 : ℚ) ^ value.exponent := by
  have kept := JsonNumber.normalize_rational value.coefficient.natAbs value.coefficient.natAbs
    value.exponent
  unfold JsonNumber.numeral
  dsimp only
  generalize JsonNumber.normalize value.coefficient.natAbs value.coefficient.natAbs
    value.exponent = normal at kept ⊢
  rw [← kept, JsonNumber.rational, JsonNumber.powTen_eq]
  split_ifs with zero whole mixed small
  · simp [Numeral.magnitude, WholePart.row, Numeral.fractionRow, digitsValue, zero]
  all_goals
    obtain ⟨first, rest, starts⟩ := digitRow_starts (Nat.pos_of_ne_zero zero)
    have same := digitsValue_row normal.1
    generalize digitRow normal.1 = row at *
  · -- The zeros behind the digits are the power of ten.
    obtain ⟨zeros, power⟩ := Int.eq_ofNat_of_zero_le (show 0 ≤ normal.2 by omega)
    have value : digitsValue (row ++ List.replicate zeros 0) = normal.1 * 10 ^ zeros := by
      rw [digitsValue_concat, same, digitsValue_zeros, List.length_replicate, Nat.add_zero]
    simp only [Numeral.magnitude, Numeral.fractionRow, wholeOf_append starts, List.append_nil, power,
      add_sub_cancel_left, Int.toNat_natCast, value]
    simp
  · -- The digits behind the point lower the power of ten.
    have fewer : (((row.drop ((row.length : Int) + normal.2).toNat).length : Nat) : Int)
        = -normal.2 := by
      rw [List.length_drop]
      omega
    have front : 0 < ((row.length : Int) + normal.2).toNat := by omega
    rw [Numeral.magnitude, fractionRow_of _ rfl]
    simp only [wholeOf_take starts front, List.take_append_drop, same, fewer]
    simp
  · have places : (((List.replicate (-((row.length : Int) + normal.2)).toNat (0 : Digit) ++ row).length
        : Nat) : Int) = -normal.2 := by
      rw [List.length_append, List.length_replicate]
      omega
    have value : digitsValue ([0] ++ (List.replicate (-((row.length : Int) + normal.2)).toNat 0 ++ row))
        = normal.1 := by
      rw [← List.append_assoc, digitsValue_concat, same, ← List.replicate_one,
        List.replicate_append_replicate, digitsValue_zeros, Nat.zero_mul, Nat.zero_add]
    rw [Numeral.magnitude, fractionRow_of _ rfl]
    simp only [WholePart.row, value, places]
    simp
  · have fewer : (((row.drop 1).length : Nat) : Int) = row.length - 1 := by
      rw [List.length_drop, starts, List.length_cons]
      omega
    rw [Numeral.magnitude, fractionRow_of _ rfl]
    simp only [wholeOf_take starts Nat.one_pos, List.take_append_drop, same, fewer,
      exponentOf_value]
    congr 2
    omega

/-- The text of a decimal is that of the JSON number it is written as. -/
theorem JsonNumber.numeral_text (value : JsonNumber) :
    value.numeral.text = value.text.map UInt8.toUInt16 := by
  have zeros : ∀ count, (List.replicate count (48 : UInt8)).map UInt8.toUInt16
      = digitsText (List.replicate count 0) := by
    intro count
    rw [List.map_replicate, digitsText, List.map_replicate]
    rfl
  have marks : (utf8 "-").map UInt8.toUInt16 = [45] ∧ (utf8 ".").map UInt8.toUInt16 = [46]
      ∧ (utf8 "0.").map UInt8.toUInt16 = [48, 46] ∧ (utf8 "0").map UInt8.toUInt16 = [48] := by
    decide
  have text := fun normal => digitRow_text normal
  have length := fun normal => digitRow_length normal
  unfold JsonNumber.numeral JsonNumber.text
  dsimp only
  generalize JsonNumber.normalize value.coefficient.natAbs value.coefficient.natAbs
    value.exponent = normal
  by_cases zero : normal.1 = 0
  · rw [if_pos zero, if_pos zero, marks.2.2.2]
    rfl
  · rw [if_neg zero, if_neg zero]
    obtain ⟨first, rest, starts⟩ := digitRow_starts (Nat.pos_of_ne_zero zero)
    have same := text normal.1
    have long := length normal.1
    have sign : (if value.coefficient < 0 then utf8 "-" else []).map UInt8.toUInt16
        = if decide (value.coefficient < 0) then [45] else [] := by
      by_cases negative : value.coefficient < 0 <;> simp [negative, marks]
    generalize digitRow normal.1 = row at *
    rw [← long]
    generalize JsonNumber.digits normal.1 = shortest at *
    rw [List.map_append, sign]
    have append : ∀ front back : List Digit, digitsText (front ++ back)
        = digitsText front ++ digitsText back := fun _ _ => List.map_append
    have take : ∀ count, (shortest.take count).map UInt8.toUInt16 = digitsText (row.take count) := by
      intro count
      rw [List.map_take, ← same, digitsText, digitsText, List.map_take]
    have drop : ∀ count, (shortest.drop count).map UInt8.toUInt16 = digitsText (row.drop count) := by
      intro count
      rw [List.map_drop, ← same, digitsText, digitsText, List.map_drop]
    by_cases whole : (row.length : Int) ≤ row.length + normal.2 ∧ (row.length : Int) + normal.2 ≤ 21
    · rw [if_pos whole, if_pos whole]
      simp only [Numeral.text, Numeral.fractionText, Numeral.exponentText, wholeOf_append starts,
        List.append_nil, List.map_append, zeros, append, same]
    rw [if_neg whole, if_neg whole]
    by_cases mixed : 0 < (row.length : Int) + normal.2 ∧ (row.length : Int) + normal.2 ≤ 21
    · rw [if_pos mixed, if_pos mixed]
      have some : row.drop ((row.length : Int) + normal.2).toNat ≠ [] := by
        rw [ne_eq, List.drop_eq_nil_iff]
        omega
      rw [Numeral.text, fractionText_of _ rfl, if_neg some]
      simp only [Numeral.exponentText, List.append_nil, List.map_append, marks.2.1, take, drop,
        wholeOf_take starts (show 0 < ((row.length : Int) + normal.2).toNat by omega),
        List.append_assoc, List.singleton_append]
    rw [if_neg mixed, if_neg mixed]
    by_cases small : -6 < (row.length : Int) + normal.2 ∧ (row.length : Int) + normal.2 ≤ 0
    · rw [if_pos small, if_pos small]
      have some : List.replicate (-((row.length : Int) + normal.2)).toNat 0 ++ row ≠ [] := by
        simp [starts]
      rw [Numeral.text, fractionText_of _ rfl, if_neg some]
      simp only [Numeral.exponentText, List.append_nil, List.map_append, marks.2.2.1, zeros, append,
        same]
      rfl
    rw [if_neg small, if_neg small, Numeral.text, fractionText_of _ rfl]
    simp only [Numeral.exponentText, exponentOf_text, List.map_append, take,
      wholeOf_take starts Nat.one_pos, List.append_assoc]
    by_cases single : row.length = 1
    · have none : row.drop 1 = [] := by
        rw [List.drop_eq_nil_iff, single]
      simp [single, none]
    · have some : row.drop 1 ≠ [] := by
        rw [ne_eq, List.drop_eq_nil_iff]
        rw [starts, List.length_cons] at single ⊢
        omega
      simp only [single, some, if_false, List.map_append, marks.2.1, drop, List.nil_append,
        List.cons_append]

/-- Nothing is kept of a number that is not above zero. -/
theorem roundBits_nonpos {value : ℚ} (low : value ≤ 0) : roundBits value = 0 := by
  have near := roundHalfEven_near value
  have floor : value.floor ≤ 0 := by
    have : (value.floor : ℚ) ≤ value := Rat.floor_le value
    exact_mod_cast this.trans low
  have bit : lastBit value.floor.toNat = 0 := by
    rw [Int.toNat_of_nonpos floor]
    rfl
  have rounded : roundHalfEven value < 1 := by
    rw [abs_le] at near
    have : (roundHalfEven value : ℚ) < 1 := by linarith
    exact_mod_cast this
  unfold roundBits
  rw [bit]
  dsimp only
  rw [Nat.pow_zero, Nat.cast_one, div_one, Int.toNat_of_nonpos (by omega), Nat.zero_mul]

namespace Magnitude

/-- The decimal of a magnitude is read back as it. -/
theorem readsAs_decimal (magnitude : Magnitude) : readsAs magnitude.units magnitude.decimal = true := by
  unfold Magnitude.decimal
  by_cases zero : magnitude.units = 0
  · rw [if_pos zero, zero, readsAs, decide_eq_true_eq]
    exact roundBits_nonpos (by simp only [JsonNumber.rational, JsonNumber.ofInt, Int.cast_zero, zero_mul, zero_div, le_refl])
  · obtain ⟨decimal, fewer, found, -, -, read⟩ :=
      shortestOf_spec (Nat.pos_of_ne_zero zero) magnitude.kept
    rw [if_neg zero, found]
    exact read

/-- The decimal of a magnitude is above zero exactly when the magnitude is. -/
theorem decimal_pos (magnitude : Magnitude) :
    (magnitude.units = 0 → magnitude.decimal.coefficient = 0)
      ∧ (magnitude.units ≠ 0 → 0 < magnitude.decimal.coefficient) := by
  constructor
  · intro zero
    rw [Magnitude.decimal, if_pos zero]
    rfl
  · intro some
    by_contra low
    have read := magnitude.readsAs_decimal
    rw [readsAs, decide_eq_true_eq] at read
    have nonpos : magnitude.decimal.rational * (unitsPerOne : ℚ) ≤ 0 := by
      apply mul_nonpos_of_nonpos_of_nonneg
      · rw [JsonNumber.rational, JsonNumber.powTen_eq]
        apply mul_nonpos_of_nonpos_of_nonneg
        · exact_mod_cast Int.not_lt.mp low
        · positivity
      · exact Nat.cast_nonneg _
    rw [roundBits_nonpos nonpos] at read
    exact some read.symm

/-- A double is the nearest one to its decimal. -/
theorem nearest_decimal (magnitude : Magnitude) (negative : Bool) :
    Double.nearest negative magnitude.decimal.rational = .finite negative magnitude := by
  have read := magnitude.readsAs_decimal
  rw [readsAs, decide_eq_true_eq] at read
  obtain ⟨units, bounded, kept⟩ := magnitude
  unfold Double.nearest
  simp only at read ⊢
  simp only [read, bounded, dif_pos]

/-- The number a finite double is written as. -/
def numeral (negative : Bool) (magnitude : Magnitude) : Numeral :=
  JsonNumber.numeral {
    coefficient := if negative then -magnitude.decimal.coefficient else magnitude.decimal.coefficient
    exponent := magnitude.decimal.exponent }

/-- A finite double is read back from its text, but for the sign of zero. -/
theorem numeral_value (negative : Bool) (magnitude : Magnitude) :
    (numeral negative magnitude).value
      = .finite (negative && decide (magnitude.units ≠ 0)) magnitude := by
  have size : ((if negative then -magnitude.decimal.coefficient
      else magnitude.decimal.coefficient).natAbs : ℚ) = magnitude.decimal.coefficient := by
    have absolute : (if negative then -magnitude.decimal.coefficient
        else magnitude.decimal.coefficient).natAbs = magnitude.decimal.coefficient.natAbs := by
      cases negative <;> simp
    have nonneg : 0 ≤ magnitude.decimal.coefficient := by
      by_cases zero : magnitude.units = 0
      · exact (magnitude.decimal_pos.1 zero).ge
      · exact (magnitude.decimal_pos.2 zero).le
    rw [absolute, ← Int.cast_natCast, Int.natAbs_of_nonneg nonneg]
  have signed : decide ((if negative then -magnitude.decimal.coefficient
      else magnitude.decimal.coefficient) < 0) = (negative && decide (magnitude.units ≠ 0)) := by
    by_cases zero : magnitude.units = 0
    · simp [zero, magnitude.decimal_pos.1 zero]
    · have positive := magnitude.decimal_pos.2 zero
      cases negative
      · simp [zero, positive.le]
      · simp [zero, positive]
  unfold Numeral.value numeral
  rw [JsonNumber.numeral_negative, JsonNumber.numeral_magnitude, signed, size,
    ← magnitude.nearest_decimal, JsonNumber.rational, JsonNumber.powTen_eq]

end Magnitude

end Klura
