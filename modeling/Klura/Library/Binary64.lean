import Klura.Library.Decimal
import Mathlib.Data.Rat.Floor
import Mathlib.Algebra.Order.Field.Power
import Mathlib.Tactic.Linarith
import Mathlib.Tactic.Positivity
import Mathlib.Tactic.Ring
import Mathlib.Tactic.NormNum

/-! Double-precision numbers, the rounding that reads them and the shortest decimal of each. -/

namespace Klura

/-- The integer nearest to a rational, the even one of two equally near. -/
def roundHalfEven (value : ℚ) : Int :=
  let below := value.floor
  let rest := value - below
  if rest < 1 / 2 then below
  else if 1 / 2 < rest then below + 1
  else below + below % 2

/-- The place of the last bit that is kept when fifty-three bits of a number are. -/
def lastBit (units : Nat) : Nat := Nat.log2 units - 52

/-- The number that rounding keeps of a rational counted in units of the smallest double. -/
def roundBits (value : ℚ) : Nat :=
  let step := 2 ^ lastBit value.floor.toNat
  (roundHalfEven (value / (step : Nat))).toNat * step

/-- The nearest integer is at most half away. -/
theorem roundHalfEven_near (value : ℚ) : |value - roundHalfEven value| ≤ 1 / 2 := by
  have low : (value.floor : ℚ) ≤ value := Rat.floor_le value
  have high : value - 1 < value.floor := Rat.lt_floor
  unfold roundHalfEven
  dsimp only
  split_ifs with below above
  · rw [abs_le]
    constructor <;> linarith
  · push_cast
    rw [abs_le]
    constructor <;> linarith
  · -- At a tie the parity of the lower integer adds nothing or one.
    have tie : value - value.floor = 1 / 2 := by linarith
    have parity : value.floor % 2 = 0 ∨ value.floor % 2 = 1 := by omega
    rcases parity with even | odd
    · rw [even]
      push_cast
      rw [abs_le]
      constructor <;> linarith
    · rw [odd]
      push_cast
      rw [abs_le]
      constructor <;> linarith

variable {value : ℚ}

/-- An integer less than half away is the nearest one. -/
theorem roundHalfEven_eq {target : Int} (near : |value - target| < 1 / 2) :
    roundHalfEven value = target := by
  have rounded := roundHalfEven_near value
  have apart : |((roundHalfEven value - target : Int) : ℚ)| < 1 := by
    rw [abs_lt] at near ⊢
    rw [abs_le] at rounded
    push_cast
    constructor <;> linarith
  have same : |roundHalfEven value - target| < 1 := by exact_mod_cast apart
  rw [Int.abs_lt_one_iff] at same
  omega

/-- A number has as many bits as its last kept place says, and no fewer unless it keeps all. -/
theorem lastBit_spec (units : Nat) :
    units < 2 ^ (53 + lastBit units) ∧ (0 < lastBit units → 2 ^ (52 + lastBit units) ≤ units) := by
  unfold lastBit
  constructor
  · have wide : units < 2 ^ (units.log2 + 1) := Nat.lt_log2_self
    exact wide.trans_le (Nat.pow_le_pow_right (by decide) (by omega))
  · intro kept
    have some : units ≠ 0 := by
      intro none
      subst none
      simp at kept
    have exact : 52 + (units.log2 - 52) = units.log2 := by omega
    rw [exact]
    exact Nat.log2_self_le some

variable {units place : Nat}

/-- The last kept place of a number that fits in so many bits. -/
theorem lastBit_of_bounds (high : units < 2 ^ (53 + place))
    (low : 0 < place → 2 ^ (52 + place) ≤ units) : lastBit units = place := by
  unfold lastBit
  have within : units.log2 < 53 + place ∨ units = 0 := by
    by_cases none : units = 0
    · exact .inr none
    · exact .inl ((Nat.log2_lt none).mpr high)
  by_cases whole : place = 0
  · rcases within with few | none
    · omega
    · simp [none, whole]
  · have some : units ≠ 0 := by
      have := low (Nat.pos_of_ne_zero whole)
      have : 0 < 2 ^ (52 + place) := Nat.two_pow_pos _
      omega
    have reaches : 52 + place ≤ units.log2 :=
      (Nat.le_log2 some).mpr (low (Nat.pos_of_ne_zero whole))
    rcases within with few | none
    · omega
    · exact absurd none some

/-- The whole part of a rational lies between the powers of its last kept place. -/
theorem floor_bounds (high : value < (2 ^ (53 + place) : Nat))
    (low : 0 < place → ((2 ^ (52 + place) : Nat) : ℚ) ≤ value) :
    lastBit value.floor.toNat = place := by
  apply lastBit_of_bounds
  · have under : value.floor < ((2 ^ (53 + place) : Nat) : Int) := by
      rw [Rat.floor_lt_iff]
      exact_mod_cast high
    have some : 0 < 2 ^ (53 + place) := Nat.two_pow_pos _
    omega
  · intro kept
    have least : ((2 ^ (52 + place) : Nat) : Int) ≤ value.floor := by
      rw [Rat.le_floor_iff]
      exact_mod_cast low kept
    omega

/-- A number that fits keeps all bits from the place on. -/
theorem lastBit_le (high : units < 2 ^ (53 + place)) :
    lastBit units ≤ place := by
  by_contra above
  have reaches := (lastBit_spec units).2 (by omega)
  have wide : 2 ^ (53 + place) ≤ 2 ^ (52 + lastBit units) :=
    Nat.pow_le_pow_right (by decide) (by omega)
  omega

/-- What rounding keeps has no bits below its last kept place. -/
theorem roundBits_kept (value : ℚ) : 2 ^ lastBit (roundBits value) ∣ roundBits value := by
  set place := lastBit value.floor.toNat with defined
  set kept := (roundHalfEven (value / ((2 ^ place : Nat) : ℚ))).toNat with rounded
  have whole : roundBits value = kept * 2 ^ place := rfl
  have positive : (0 : ℚ) < ((2 ^ place : Nat) : ℚ) := by exact_mod_cast Nat.two_pow_pos place
  -- The value has at most fifty-three bits before the kept place, so rounding reaches 2 ^ 53.
  have under : value < ((2 ^ 53 : Nat) : ℚ) * ((2 ^ place : Nat) : ℚ) := by
    have fits := (lastBit_spec value.floor.toNat).1
    rw [← defined, Nat.pow_add] at fits
    have next : value - 1 < value.floor := Rat.lt_floor
    have least : value.floor ≤ (value.floor.toNat : Int) := Int.self_le_toNat _
    have least' : (value.floor : ℚ) ≤ (value.floor.toNat : ℚ) := by exact_mod_cast least
    have fits' : ((value.floor.toNat + 1 : Nat) : ℚ) ≤ ((2 ^ 53 * 2 ^ place : Nat) : ℚ) := by
      exact_mod_cast fits
    push_cast at fits' ⊢
    linarith
  have most : kept ≤ 2 ^ 53 := by
    have near := roundHalfEven_near (value / ((2 ^ place : Nat) : ℚ))
    have share : value / ((2 ^ place : Nat) : ℚ) < ((2 ^ 53 : Nat) : ℚ) := by
      rwa [div_lt_iff₀ positive]
    rw [abs_le] at near
    have below : (roundHalfEven (value / ((2 ^ place : Nat) : ℚ)) : ℚ)
        < (((2 ^ 53 : Nat) : Int) : ℚ) + 1 := by
      rw [Int.cast_natCast]
      linarith
    have below' : roundHalfEven (value / ((2 ^ place : Nat) : ℚ)) < ((2 ^ 53 : Nat) : Int) + 1 := by
      exact_mod_cast below
    omega
  rw [whole]
  rcases Nat.lt_or_eq_of_le most with fewer | carried
  · have high : kept * 2 ^ place < 2 ^ (53 + place) := by
      rw [Nat.pow_add]
      exact Nat.mul_lt_mul_of_pos_right fewer (Nat.two_pow_pos place)
    exact (Nat.pow_dvd_pow 2 (lastBit_le high)).trans (Nat.dvd_mul_left _ _)
  · -- A carry leaves a power of two, which keeps one bit more.
    rw [carried, ← Nat.pow_add]
    apply Nat.pow_dvd_pow
    have high : 2 ^ (53 + place) < 2 ^ (53 + (place + 1)) :=
      Nat.pow_lt_pow_right (by decide) (by omega)
    have := lastBit_le high
    omega

/-- A value close enough to a number with few bits rounds to it. -/
theorem roundBits_near (kept : 2 ^ lastBit units ∣ units)
    (near : |value - units| < ((2 ^ lastBit units : Nat) : ℚ) / 2)
    (narrow : units = 2 ^ (52 + lastBit units) → (units : ℚ) - value < ((2 ^ lastBit units : Nat) : ℚ) / 4) :
    roundBits value = units := by
  obtain ⟨share, split⟩ := kept
  set place := lastBit units with defined
  have positive : (0 : ℚ) < ((2 ^ place : Nat) : ℚ) := by exact_mod_cast Nat.two_pow_pos place
  -- A multiple of the step at a place that keeps it is the nearest one.
  have rounds : ∀ at_ : Nat, lastBit value.floor.toNat = at_ → ∀ share_ : Nat,
      units = 2 ^ at_ * share_ → |value - units| < ((2 ^ at_ : Nat) : ℚ) / 2 →
      roundBits value = units := by
    intro at_ placed share_ multiple close
    have step : (0 : ℚ) < ((2 ^ at_ : Nat) : ℚ) := by exact_mod_cast Nat.two_pow_pos at_
    have nearest : roundHalfEven (value / ((2 ^ at_ : Nat) : ℚ)) = share_ := by
      apply roundHalfEven_eq
      have apart : value / ((2 ^ at_ : Nat) : ℚ) - ((share_ : Int) : ℚ)
          = (value - units) / ((2 ^ at_ : Nat) : ℚ) := by
        rw [multiple]
        push_cast
        field_simp
      rw [apart, abs_div, abs_of_pos step, div_lt_iff₀ step]
      linarith
    unfold roundBits
    rw [placed]
    dsimp only
    rw [nearest, multiple, Int.toNat_natCast, Nat.mul_comm]
  obtain ⟨high, low⟩ := lastBit_spec units
  rw [← defined] at high low
  rw [abs_lt] at near
  -- One more step stays within the bits, because the number is a multiple of the step.
  have room : units + 2 ^ place ≤ 2 ^ (53 + place) := by
    rw [split, Nat.pow_add, Nat.mul_comm (2 ^ 53)] at high ⊢
    have fewer : share < 2 ^ 53 := Nat.lt_of_mul_lt_mul_left high
    calc 2 ^ place * share + 2 ^ place = 2 ^ place * (share + 1) := by ring
      _ ≤ 2 ^ place * 2 ^ 53 := Nat.mul_le_mul_left _ fewer
  have room' : (units : ℚ) + ((2 ^ place : Nat) : ℚ) ≤ ((2 ^ (53 + place) : Nat) : ℚ) := by
    exact_mod_cast room
  have fits : value < ((2 ^ (53 + place) : Nat) : ℚ) := by linarith
  by_cases inside : 0 < place → ((2 ^ (52 + place) : Nat) : ℚ) ≤ value
  · refine rounds place (floor_bounds fits inside) share split ?_
    rw [abs_lt]
    exact near
  · -- Just under a power of two the step is half as wide.
    rw [Classical.not_imp, not_le] at inside
    obtain ⟨some, beneath⟩ := inside
    obtain ⟨lower, next⟩ : ∃ lower, place = lower + 1 := ⟨place - 1, by omega⟩
    have double : ((2 ^ place : Nat) : ℚ) = 2 * ((2 ^ lower : Nat) : ℚ) := by
      rw [next, Nat.pow_succ]
      push_cast
      ring
    have half : ((2 ^ (52 + place) : Nat) : ℚ) = ((2 ^ (53 + lower) : Nat) : ℚ) := by
      rw [next]
      congr 2
      omega
    have power : units = 2 ^ (52 + place) := by
      have reach := low some
      have bound : (units : ℚ) < ((2 ^ (52 + place) + 2 ^ place : Nat) : ℚ) := by
        push_cast at beneath near ⊢
        linarith
      have bound' : units < 2 ^ (52 + place) + 2 ^ place := by exact_mod_cast bound
      rw [split, Nat.pow_add, Nat.mul_comm (2 ^ 52)] at reach bound' ⊢
      have least : 2 ^ 52 ≤ share := Nat.le_of_mul_le_mul_left reach (Nat.two_pow_pos place)
      have most : share < 2 ^ 52 + 1 := by
        apply Nat.lt_of_mul_lt_mul_left (a := 2 ^ place)
        rw [Nat.mul_add, Nat.mul_one]
        exact bound'
      rw [show share = 2 ^ 52 by omega]
    have close := narrow power
    have unitsPower : (units : ℚ) = ((2 ^ (53 + lower) : Nat) : ℚ) := by
      rw [← half, ← power]
    have wide : ((2 ^ (53 + lower) : Nat) : ℚ) = 2 * ((2 ^ (52 + lower) : Nat) : ℚ) := by
      rw [show 53 + lower = 52 + lower + 1 by omega, Nat.pow_succ]
      push_cast
      ring
    have large : ((2 ^ lower : Nat) : ℚ) ≤ ((2 ^ (52 + lower) : Nat) : ℚ) := by
      exact_mod_cast Nat.pow_le_pow_right (by decide) (by omega)
    have step : (0 : ℚ) < ((2 ^ lower : Nat) : ℚ) := by exact_mod_cast Nat.two_pow_pos lower
    have placed : lastBit value.floor.toNat = lower := by
      apply floor_bounds
      · rw [← half]
        exact beneath
      · intro _
        linarith
    refine rounds lower placed (2 ^ 53) ?_ ?_
    · rw [power, next, ← Nat.pow_add]
      congr 1
      omega
    · rw [abs_lt]
      constructor <;> linarith

/-- A larger rational has no smaller nearest integer. -/
theorem roundHalfEven_mono {low high : ℚ} (order : low ≤ high) :
    roundHalfEven low ≤ roundHalfEven high := by
  by_contra falls
  have below := (abs_le.mp (roundHalfEven_near low)).1
  have above := (abs_le.mp (roundHalfEven_near high)).2
  have apart : (roundHalfEven high : ℚ) + 1 ≤ roundHalfEven low := by
    exact_mod_cast Int.lt_of_not_ge falls
  -- Half a step each way leaves no room between the two, so they are one rational.
  have same : low = high := by linarith
  rw [same] at falls
  exact falls (le_refl _)

theorem roundHalfEven_int (value : Int) : roundHalfEven value = value :=
  roundHalfEven_eq (by simp)

/-- Rounding a larger rational keeps no less. -/
theorem roundBits_mono {low high : ℚ} (order : low ≤ high) : roundBits low ≤ roundBits high := by
  have floors : low.floor.toNat ≤ high.floor.toNat :=
    Int.toNat_le_toNat (Rat.le_floor_iff.mpr ((Rat.floor_le low).trans order))
  have scaled (place : Nat) {left right : ℚ} (order : left ≤ right) :
      (roundHalfEven (left / (2 ^ place : Nat))).toNat ≤
        (roundHalfEven (right / (2 ^ place : Nat))).toNat := by
    apply Int.toNat_le_toNat
    apply roundHalfEven_mono
    exact div_le_div_of_nonneg_right order (Nat.cast_nonneg _)
  have whole (count place : Nat) :
      roundHalfEven (((count * 2 ^ place : Nat) : ℚ) / (2 ^ place : Nat)) = count := by
    have positive : ((2 ^ place : Nat) : ℚ) ≠ 0 := by positivity
    rw [Nat.cast_mul, mul_div_assoc, div_self positive, mul_one]
    exact roundHalfEven_int count
  unfold roundBits
  dsimp only
  have highBound := lastBit_spec high.floor.toNat
  have lowBound := lastBit_spec low.floor.toNat
  have places : lastBit low.floor.toNat ≤ lastBit high.floor.toNat :=
    lastBit_le (by omega)
  rcases Nat.eq_or_lt_of_le places with same | smaller
  · rw [same]
    exact Nat.mul_le_mul_right _ (scaled _ order)
  · -- The power of two between the places lies between the two.
    set lower := lastBit low.floor.toNat
    set upper := lastBit high.floor.toNat
    have beneath : low ≤ ((2 ^ 53 * 2 ^ lower : Nat) : ℚ) := by
      rw [← Nat.pow_add]
      have reach : low - 1 < low.floor := Rat.lt_floor
      have next : low.floor + 1 ≤ ((2 ^ (53 + lower) : Nat) : Int) := by omega
      have next' : (low.floor : ℚ) + 1 ≤ ((2 ^ (53 + lower) : Nat) : ℚ) := by exact_mod_cast next
      linarith
    have above : ((2 ^ 52 * 2 ^ upper : Nat) : ℚ) ≤ high := by
      rw [← Nat.pow_add]
      have reach := highBound.2 (by omega)
      have some := Nat.two_pow_pos (52 + upper)
      have next : ((2 ^ (52 + upper) : Nat) : Int) ≤ high.floor := by omega
      exact (show ((2 ^ (52 + upper) : Nat) : ℚ) ≤ high.floor by exact_mod_cast next).trans
        (Rat.floor_le high)
    have left := scaled lower beneath
    have right := scaled upper above
    rw [whole] at left right
    calc _ ≤ 2 ^ 53 * 2 ^ lower := Nat.mul_le_mul_right _ left
      _ = 2 ^ 52 * 2 ^ (lower + 1) := by ring
      _ ≤ 2 ^ 52 * 2 ^ upper :=
        Nat.mul_le_mul_left _ (Nat.pow_le_pow_right (by decide) smaller)
      _ ≤ _ := Nat.mul_le_mul_right _ right

/-- The magnitude of a finite double, counted in units of the smallest one above zero. -/
structure Magnitude where
  units : Nat
  bounded : units < 2 ^ 2098
  kept : 2 ^ lastBit units ∣ units

/-- The magnitude of both zeros. -/
def Magnitude.zero : Magnitude :=
  { units := 0, bounded := Nat.two_pow_pos 2098, kept := Nat.dvd_zero _ }

/-- The smallest double above zero goes this often into one. -/
def unitsPerOne : Nat := 2 ^ 1074

/-- The power of ten that makes every double above zero at least one. -/
def decimalScale : Nat := 10 ^ 324

/-- The rational that a number of units of the smallest double is. -/
def unitsRational (units : Nat) : ℚ := units / (unitsPerOne : ℚ)

/-- A double-precision number other than the one that is no number. -/
inductive Double where
  | finite (negative : Bool) (magnitude : Magnitude)
  | infinite (negative : Bool)

/-- The double nearest to a magnitude, infinite from where no finite one is near. -/
def Double.nearest (negative : Bool) (magnitude : ℚ) : Double :=
  let units := roundBits (magnitude * (unitsPerOne : ℚ))
  if bounded : units < 2 ^ 2098 then .finite negative ⟨units, bounded, roundBits_kept _⟩
  else .infinite negative

/-- The nearest double is finite where the rounded magnitude is within bounds. -/
theorem nearest_finite (negative : Bool)
    (bounded : roundBits (value * (unitsPerOne : ℚ)) < 2 ^ 2098) : ∃ magnitude : Magnitude,
      Double.nearest negative value = .finite negative magnitude ∧
      magnitude.units = roundBits (value * (unitsPerOne : ℚ)) := by
  unfold Double.nearest
  dsimp only
  rw [dif_pos bounded]
  exact ⟨_, rfl, rfl⟩

/-- The digits a magnitude has before its decimal point, or less the zeros behind it. -/
def decimalPoint (units : Nat) : Int :=
  ((Nat.toDigits 10 (units * decimalScale / unitsPerOne)).length : Int) - 324

/-- Whether a decimal is read as a magnitude. -/
def readsAs (units : Nat) (decimal : JsonNumber) : Bool :=
  decide (roundBits (decimal.rational * (unitsPerOne : ℚ)) = units)

/-- The two decimals of so many digits around a magnitude, the nearer one first. -/
def decimalsOf (units count : Nat) : List JsonNumber :=
  let place := decimalPoint units - count
  let scaled := unitsRational units / JsonNumber.powTen place
  let near := roundHalfEven scaled
  let far := if near = scaled.floor then near + 1 else near - 1
  [{ coefficient := near, exponent := place }, { coefficient := far, exponent := place }]

/-- The decimal with the fewest digits that is read as a magnitude. -/
def shortestOf (units : Nat) : Option JsonNumber :=
  (List.range 17).findSome? fun fewer => (decimalsOf units (fewer + 1)).find? (readsAs units)

/-- The decimal a finite double is written as. -/
def Magnitude.decimal (magnitude : Magnitude) : JsonNumber :=
  if magnitude.units = 0 then .ofInt 0
  else (shortestOf magnitude.units).getD (.ofInt 0)

/-- A power of ten is the field's own. -/
theorem JsonNumber.powTen_eq (exponent : Int) : JsonNumber.powTen exponent = (10 : ℚ) ^ exponent := by
  unfold JsonNumber.powTen
  split_ifs with whole
  · obtain ⟨power, rfl⟩ := Int.eq_ofNat_of_zero_le whole
    simp
  · obtain ⟨power, split⟩ := Int.eq_ofNat_of_zero_le (show 0 ≤ -exponent by omega)
    rw [split, show exponent = -(power : Int) by omega, zpow_neg]
    simp

theorem unitsPerOne_pos : 0 < unitsPerOne := by
  unfold unitsPerOne
  positivity

theorem decimalScale_eq : (decimalScale : ℚ) = (10 : ℚ) ^ (324 : Int) := by
  unfold decimalScale
  rw [Nat.cast_pow]
  rfl

/-- The scale brings the smallest double above one. -/
theorem unitsPerOne_le : unitsPerOne ≤ decimalScale := by
  have fives : (2 ^ 125) ^ 6 ≤ (5 ^ 54) ^ 6 := Nat.pow_le_pow_left (by decide) 6
  simp only [← Nat.pow_mul, Nat.reduceMul] at fives
  have tens : decimalScale = 2 ^ 324 * 5 ^ 324 := by
    unfold decimalScale
    generalize 324 = power
    rw [← Nat.mul_pow]
  have twos := Nat.pow_add 2 324 750
  simp only [Nat.reduceAdd] at twos
  rewrite [tens, unitsPerOne, twos]
  generalize 2 ^ 324 = base
  exact Nat.mul_le_mul_left base fives

/-- The decimal point of a magnitude stands right after its leading digit's power of ten. -/
theorem decimalPoint_spec (some : 0 < units) :
    (10 : ℚ) ^ (decimalPoint units - 1) ≤ unitsRational units ∧
      unitsRational units < (10 : ℚ) ^ decimalPoint units := by
  have scaleLe := unitsPerOne_le
  have scaleEq := decimalScale_eq
  have onePos := unitsPerOne_pos
  unfold unitsRational decimalPoint
  generalize unitsPerOne = one at *
  generalize decimalScale = scale at *
  set scaled := units * scale / one with defined
  set length := (Nat.toDigits 10 scaled).length with counted
  have one' : (0 : ℚ) < (one : ℚ) := by exact_mod_cast onePos
  have scale' : (0 : ℚ) < (scale : ℚ) := by
    rw [scaleEq]
    positivity
  have value : (units : ℚ) / one = ((units * scale : Nat) : ℚ) / one / scale := by
    push_cast
    field_simp
  have shift (exponent : Int) : (10 : ℚ) ^ (exponent - 324) = (10 : ℚ) ^ exponent / scale := by
    rw [scaleEq, zpow_sub₀ (by norm_num)]
  have positive : 0 < scaled :=
    Nat.div_pos (scaleLe.trans (Nat.le_mul_of_pos_left _ some)) onePos
  have long : 0 < length := Nat.length_toDigits_pos
  have most : scaled < 10 ^ length :=
    (Nat.length_toDigits_le_iff (by decide) long).mp (Nat.le_refl _)
  have least : 10 ^ (length - 1) ≤ scaled := by
    by_contra fewer
    by_cases single : length = 1
    · rw [single] at fewer
      omega
    · have := (Nat.length_toDigits_le_iff (b := 10) (by decide) (by omega)).mpr
        (Nat.lt_of_not_le fewer)
      omega
  have below : (scaled : ℚ) ≤ ((units * scale : Nat) : ℚ) / one := by
    rw [le_div_iff₀ one']
    exact_mod_cast Nat.div_mul_le_self _ _
  have above : ((units * scale : Nat) : ℚ) / one < (scaled : ℚ) + 1 := by
    rw [div_lt_iff₀ one']
    exact_mod_cast (Nat.div_lt_iff_lt_mul onePos).mp (Nat.lt_succ_self scaled)
  rw [value]
  constructor
  · rw [show (length : Int) - 324 - 1 = ((length - 1 : Nat) : Int) - 324 by omega, shift,
      zpow_natCast]
    apply div_le_div_of_nonneg_right _ scale'.le
    calc (10 : ℚ) ^ (length - 1) ≤ (scaled : ℚ) := by exact_mod_cast least
      _ ≤ _ := below
  · rw [shift, zpow_natCast]
    apply div_lt_div_of_pos_right _ scale'
    calc _ < (scaled : ℚ) + 1 := above
      _ ≤ (10 : ℚ) ^ length := by exact_mod_cast most

/-- The nearest decimal of seventeen digits is read as the magnitude it is near. -/
theorem readsAs_seventeen (some : 0 < units) (kept : 2 ^ lastBit units ∣ units) :
    readsAs units
      { coefficient := roundHalfEven
          (unitsRational units / JsonNumber.powTen (decimalPoint units - (17 : Nat)))
        exponent := decimalPoint units - (17 : Nat) } = true := by
  have least := (decimalPoint_spec some).1
  set place := decimalPoint units - (17 : Nat) with placed
  have one : (0 : ℚ) < (unitsPerOne : ℚ) := by exact_mod_cast unitsPerOne_pos
  have ten : (0 : ℚ) < (10 : ℚ) ^ place := by positivity
  set near := roundHalfEven (unitsRational units / JsonNumber.powTen place) with rounded
  have close : |unitsRational units - near * (10 : ℚ) ^ place| ≤ (10 : ℚ) ^ place / 2 := by
    have half := roundHalfEven_near (unitsRational units / JsonNumber.powTen place)
    rw [← rounded, JsonNumber.powTen_eq] at half
    have split : unitsRational units - near * (10 : ℚ) ^ place
        = (unitsRational units / (10 : ℚ) ^ place - near) * (10 : ℚ) ^ place := by
      field_simp
    rw [split, abs_mul, abs_of_pos ten]
    calc _ ≤ 1 / 2 * (10 : ℚ) ^ place := mul_le_mul_of_nonneg_right half ten.le
      _ = (10 : ℚ) ^ place / 2 := by ring
  -- One step of the seventeenth digit is small beside the last kept bit.
  set step := (unitsPerOne : ℚ) * (10 : ℚ) ^ place with stepped
  have small : step * 10 ^ 16 ≤ units := by
    have shift : (10 : ℚ) ^ (decimalPoint units - 1) = (10 : ℚ) ^ place * 10 ^ 16 := by
      rw [show decimalPoint units - 1 = place + ((16 : Nat) : Int) by omega,
        zpow_add₀ (by norm_num), zpow_natCast]
    rw [shift, unitsRational, le_div_iff₀ one] at least
    calc step * (10 : ℚ) ^ 16 = (10 : ℚ) ^ place * (10 : ℚ) ^ 16 * unitsPerOne := by
          ring
      _ ≤ (units : ℚ) := least
  have bits : ((2 ^ lastBit units : Nat) : ℚ) > 0 := by exact_mod_cast Nat.two_pow_pos _
  have high : (units : ℚ) < 2 ^ 53 * ((2 ^ lastBit units : Nat) : ℚ) := by
    have := (lastBit_spec units).1
    rw [Nat.pow_add] at this
    exact_mod_cast this
  have apart : |(near : ℚ) * JsonNumber.powTen place * (unitsPerOne : ℚ) - units| ≤ step / 2 := by
    have split : (near : ℚ) * JsonNumber.powTen place * (unitsPerOne : ℚ) - units
        = -(unitsRational units - near * (10 : ℚ) ^ place) * unitsPerOne := by
      rw [JsonNumber.powTen_eq, unitsRational]
      field_simp
      ring
    rw [split, abs_mul, abs_neg, abs_of_pos one]
    calc _ ≤ (10 : ℚ) ^ place / 2 * unitsPerOne := mul_le_mul_of_nonneg_right close one.le
      _ = step / 2 := by ring
  rw [readsAs, decide_eq_true_eq]
  apply roundBits_near kept
  · calc _ ≤ step / 2 := apart
      _ < ((2 ^ lastBit units : Nat) : ℚ) / 2 := by
        linarith
  · intro power
    have exact : (units : ℚ) = 2 ^ 52 * ((2 ^ lastBit units : Nat) : ℚ) := by
      have cast := congrArg (Nat.cast (R := ℚ)) power
      rw [Nat.pow_add] at cast
      push_cast at cast ⊢
      exact cast
    rw [abs_le] at apart
    have below : (units : ℚ) - (near : ℚ) * JsonNumber.powTen place * (unitsPerOne : ℚ) ≤ step / 2 := by
      linarith
    calc _ ≤ step / 2 := below
      _ < ((2 ^ lastBit units : Nat) : ℚ) / 4 := by
        linarith

/-- Every magnitude above zero has a shortest decimal, which is read as it. -/
theorem shortestOf_spec (some : 0 < units) (kept : 2 ^ lastBit units ∣ units) :
    ∃ decimal fewer, shortestOf units = .some decimal ∧ fewer < 17 ∧
      decimal ∈ decimalsOf units (fewer + 1) ∧ readsAs units decimal = true := by
  cases found : shortestOf units with
  | none =>
    -- The search tries seventeen digits last, and those are read back.
    unfold shortestOf at found
    rw [List.findSome?_eq_none_iff] at found
    have last := List.find?_eq_none.mp (found 16 (by simp))
    exact absurd (readsAs_seventeen some kept) (last _ List.mem_cons_self)
  | some decimal =>
    obtain ⟨fewer, tried, chosen⟩ := List.exists_of_findSome?_eq_some found
    exact ⟨decimal, fewer, rfl, List.mem_range.mp tried, List.mem_of_find?_eq_some chosen,
      List.find?_some chosen⟩

end Klura
