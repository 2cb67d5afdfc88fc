import Klura.Contracts.InstantText
import Mathlib.Tactic.IntervalCases

/-! Dates and instants are compared as they come one after the other in the calendar. -/

namespace Klura

/-! Days are counted one by one. -/

/-- The days of the years before a year that begins in March. -/
def marchYearStart (year : Int) : Int := 365 * year + year / 4 - year / 100 + year / 400

/-- The day of a year that begins in March on which a month of it begins. -/
def marchMonthStart (month : Int) : Int := (153 * month + 2) / 5

theorem daysFromCivil_eq (year month day : Int) : daysFromCivil year month day =
    marchYearStart (year - if month ≤ 2 then 1 else 0) +
      marchMonthStart (month + if 2 < month then -3 else 9) + day - 719469 := by
  unfold daysFromCivil marchYearStart marchMonthStart
  dsimp only
  generalize (year - if month ≤ 2 then 1 else 0) = shifted
  omega

theorem marchYearStart_succ (year : Int) : marchYearStart (year + 1) =
    marchYearStart year + 365 + if isLeapYear (year + 1) then 1 else 0 := by
  unfold marchYearStart isLeapYear
  split
  · rename_i leap
    simp only [Bool.and_eq_true, Bool.or_eq_true, decide_eq_true_eq] at leap
    omega
  · rename_i common
    simp only [Bool.and_eq_true, Bool.or_eq_true, decide_eq_true_eq] at common
    omega

theorem daysFromCivil_month (year : Int) {month : Nat} (real : 1 ≤ month ∧ month < 12) :
    daysFromCivil year (month + 1 : Nat) 1 =
      daysFromCivil year month (daysInMonth year month) + 1 := by
  have leap := marchYearStart_succ (year - 1)
  rw [Int.sub_add_cancel] at leap
  rw [daysFromCivil_eq, daysFromCivil_eq]
  obtain ⟨least, most⟩ := real
  -- February is the month before the year that begins in March.
  interval_cases month
  case «2» =>
    simp only [daysInMonth, marchMonthStart, if_true]
    norm_num
    rw [leap]
    split <;> omega
  all_goals
    simp only [daysInMonth, marchMonthStart]
    norm_num
    omega

theorem daysFromCivil_year (year : Int) :
    daysFromCivil (year + 1) 1 1 = daysFromCivil year 12 31 + 1 := by
  rw [daysFromCivil_eq, daysFromCivil_eq]
  unfold marchMonthStart
  norm_num
  omega

/-- The number that a date is given. -/
def dayNumber (date : CivilDate) : Int := daysFromCivil date.year date.month date.day

theorem dayNumber_counts : CountsDays dayNumber := by
  intro date
  have realMonth := date.realMonth
  have realDay := date.realDay
  unfold dayNumber CivilDate.next
  by_cases within : date.day < daysInMonth date.year date.month
  · -- Within a month, the day is added as it is.
    rw [dif_pos within, daysFromCivil_eq, daysFromCivil_eq]
    push_cast
    omega
  · have last : date.day = daysInMonth date.year date.month := by omega
    rw [dif_neg within, last]
    by_cases later : date.month < 12
    · rw [dif_pos later]
      exact daysFromCivil_month date.year ⟨realMonth.1, later⟩
    · have december : date.month = 12 := by omega
      rw [dif_neg later, december]
      exact daysFromCivil_year date.year

/-- The date from which days are counted. -/
def epochDate : CivilDate := CivilDate.firstOf 1970 1 ⟨by omega, by omega⟩

theorem dayNumber_epoch : dayNumber epochDate = 0 := by decide

/-! Instants are compared as the nanoseconds that they denote. -/

theorem nanoseconds_eq {count : CivilDate → Int} (counts : CountsDays count)
    (epoch : count epochDate = 0) (written : WrittenInstant) :
    (((dayNumber written.date * 86400 + (written.hour * 3600 + written.minute * 60 +
      written.second - offsetSeconds written.offset)) * 1000000000 +
        (fractionNanoseconds written.fraction : Int) : Int) : ℚ) =
      written.seconds count * 1000000000 := by
  have short : (written.fraction.getD []).length ≤ 9 := by
    cases found : written.fraction with
    | none => exact Nat.zero_le 9
    | some digits => exact (written.digits digits found).2.2
  -- Days can be counted from the epoch in one way only.
  have same : count written.date = dayNumber written.date :=
    counts.unique dayNumber_counts (epoch.trans dayNumber_epoch.symm) written.date
  have fraction := fractionNanoseconds_eq short
  unfold WrittenInstant.seconds
  rw [same]
  push_cast
  rw [fraction]
  ring

theorem orderOf_scaled {left right : Int} {first second : ℚ}
    (scaled : (left : ℚ) = first * 1000000000) (scaled' : (right : ℚ) = second * 1000000000) :
    (orderOf left right = 0 ↔ first = second) ∧ (orderOf left right = -1 ↔ first < second) ∧
      (orderOf left right = 1 ↔ second < first) := by
  have equal : left = right ↔ first = second := by
    rw [← @Int.cast_inj ℚ, scaled, scaled']
    exact mul_left_inj' (by norm_num)
  have less : left < right ↔ first < second := by
    rw [← @Int.cast_lt ℚ, scaled, scaled']
    exact mul_lt_mul_iff_of_pos_right (by norm_num)
  have greater : right < left ↔ second < first := by
    rw [← @Int.cast_lt ℚ, scaled, scaled']
    exact mul_lt_mul_iff_of_pos_right (by norm_num)
  rw [← equal, ← less, ← greater]
  unfold orderOf
  split
  · omega
  · split <;> omega

theorem compareInstants {count : CivilDate → Int} (counts : CountsDays count)
    (epoch : count epochDate = 0) (left right : WrittenInstant) (field field' : String) :
    ∃ first second order, parseComparable (.string left.text) .rfc3339Instant field = .ok first ∧
      parseComparable (.string right.text) .rfc3339Instant field' = .ok second ∧
      compareSemanticValues first second = .ok order ∧
      (order = 0 ↔ left.seconds count = right.seconds count) ∧
      (order = -1 ↔ left.seconds count < right.seconds count) ∧
      (order = 1 ↔ right.seconds count < left.seconds count) := by
  have read (written : WrittenInstant) (field : String) :
      parseComparable (.string written.text) .rfc3339Instant field = .ok (.bigint
        ((dayNumber written.date * 86400 + (written.hour * 3600 + written.minute * 60 +
          written.second - offsetSeconds written.offset)) * 1000000000 +
            fractionNanoseconds written.fraction)) := by
    rw [parseComparable, parseRfc3339Instant_text]
    rfl
  exact ⟨_, _, _, read left field, read right field', rfl,
    orderOf_scaled (nanoseconds_eq counts epoch left) (nanoseconds_eq counts epoch right)⟩

/-- Dates are numbered in their order, one by one and with every integer, from zero at the epoch;
the texts that are accepted as instants are those that are written as one; and two of them are
compared as their seconds from the epoch are, however the days to the epoch are counted. -/
theorem instants_chronological :
    (∀ date : CivilDate, daysFromCivil date.next.year date.next.month date.next.day =
      daysFromCivil date.year date.month date.day + 1) ∧
    daysFromCivil 1970 1 1 = 0 ∧
    (∀ first second : CivilDate, first < second ↔ daysFromCivil first.year first.month first.day <
      daysFromCivil second.year second.month second.day) ∧
    (Function.Bijective fun date : CivilDate => daysFromCivil date.year date.month date.day) ∧
    (∀ (text : Bytes) (field : String),
      (∃ value, parseComparable (.string text) .rfc3339Instant field = .ok value) ↔
        ∃ written : WrittenInstant, written.text = text) ∧
    ∀ count : CivilDate → Int, CountsDays count → count epochDate = 0 →
      ∀ (left right : WrittenInstant) (field field' : String), ∃ first second order,
        parseComparable (.string left.text) .rfc3339Instant field = .ok first ∧
        parseComparable (.string right.text) .rfc3339Instant field' = .ok second ∧
        compareSemanticValues first second = .ok order ∧
        (order = 0 ↔ left.seconds count = right.seconds count) ∧
        (order = -1 ↔ left.seconds count < right.seconds count) ∧
        (order = 1 ↔ right.seconds count < left.seconds count) := by
  refine ⟨dayNumber_counts, dayNumber_epoch, fun first second => dayNumber_counts.count_lt_iff.symm,
    ⟨dayNumber_counts.injective, dayNumber_counts.surjective epochDate⟩, fun text field => ?_,
    fun count counts epoch left right field field' =>
      compareInstants counts epoch left right field field'⟩
  constructor
  · rintro ⟨value, accepted⟩
    rw [parseComparable] at accepted
    cases read : parseRfc3339Instant text field with
    | error issue =>
      rw [read] at accepted
      nomatch accepted
    | ok instant => exact parseRfc3339Instant_ok read
  · rintro ⟨written, rfl⟩
    obtain ⟨first, second, order, accepted, -⟩ :=
      compareInstants dayNumber_counts dayNumber_epoch written written field field
    exact ⟨first, accepted⟩

end Klura
