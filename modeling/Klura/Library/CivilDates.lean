import Mathlib.Data.Int.Init
import Mathlib.Order.Basic

/-! Dates of the proleptic Gregorian calendar, the day after each, and functions that count days. -/

namespace Klura

/-- Whether a year has a leap day. -/
def isLeapYear (year : Int) : Bool :=
  decide (year % 4 = 0) && (decide (year % 100 ≠ 0) || decide (year % 400 = 0))

/-- The number of days of a month. -/
def daysInMonth (year : Int) (month : Nat) : Nat :=
  if month = 2 then if isLeapYear year then 29 else 28
  else if month = 4 ∨ month = 6 ∨ month = 9 ∨ month = 11 then 30
  else 31

theorem daysInMonth_pos (year : Int) (month : Nat) : 28 ≤ daysInMonth year month := by
  unfold daysInMonth
  split
  · split <;> omega
  · split <;> omega

theorem daysInMonth_le (year : Int) (month : Nat) : daysInMonth year month ≤ 31 := by
  unfold daysInMonth
  split
  · split <;> omega
  · split <;> omega

/-- A date that the calendar has. -/
structure CivilDate where
  year : Int
  month : Nat
  day : Nat
  realMonth : 1 ≤ month ∧ month ≤ 12
  realDay : 1 ≤ day ∧ day ≤ daysInMonth year month

namespace CivilDate

variable {first second : CivilDate}

/-- Dates with the same year, month and day are the same. -/
theorem same (year : first.year = second.year) (month : first.month = second.month)
    (day : first.day = second.day) : first = second := by
  cases first
  cases second
  simp only at year month day
  subst year month day
  rfl

/-- The first day of a month. -/
def firstOf (year : Int) (month : Nat) (realMonth : 1 ≤ month ∧ month ≤ 12) : CivilDate where
  year
  month
  day := 1
  realMonth
  realDay := ⟨Nat.le_refl 1, by have := daysInMonth_pos year month; omega⟩

/-- The last day of a month. -/
def lastOf (year : Int) (month : Nat) (realMonth : 1 ≤ month ∧ month ≤ 12) : CivilDate where
  year
  month
  day := daysInMonth year month
  realMonth
  realDay := ⟨by have := daysInMonth_pos year month; omega, Nat.le_refl _⟩

/-- The day after a date. -/
def next (date : CivilDate) : CivilDate :=
  if within : date.day < daysInMonth date.year date.month then
    ⟨date.year, date.month, date.day + 1, date.realMonth, Nat.le_add_left 1 _, within⟩
  else if later : date.month < 12 then firstOf date.year (date.month + 1) ⟨by omega, by omega⟩
  else firstOf (date.year + 1) 1 ⟨by omega, by omega⟩

/-- The day before a date. -/
def previous (date : CivilDate) : CivilDate :=
  if within : 1 < date.day then
    ⟨date.year, date.month, date.day - 1, date.realMonth, by omega,
      by have := date.realDay; omega⟩
  else if earlier : 1 < date.month then
    lastOf date.year (date.month - 1) ⟨by omega, by have := date.realMonth; omega⟩
  else lastOf (date.year - 1) 12 ⟨by omega, by omega⟩

/-- The day after the day before is the date itself. -/
theorem next_previous (date : CivilDate) : date.previous.next = date := by
  have realMonth := date.realMonth
  have realDay := date.realDay
  unfold previous
  split
  · -- The day before is one of the same month.
    have within : date.day - 1 < daysInMonth date.year date.month := by omega
    unfold next
    rw [dif_pos within]
    exact same rfl rfl (by simp only; omega)
  · have least : date.day = 1 := by omega
    split
    · -- The day before is the last one of the month before.
      unfold next lastOf
      rw [dif_neg (Nat.lt_irrefl _), dif_pos (by simp only; omega)]
      exact same rfl (by simp only [firstOf]; omega) least.symm
    · -- The day before is the last one of the year before.
      unfold next lastOf
      rw [dif_neg (Nat.lt_irrefl _), dif_neg (by simp only; omega)]
      exact same (by simp only [firstOf]; omega) (by simp only [firstOf]; omega) least.symm

/-- A date is before another one when its year is, or its month of that year, or its day of that
month. -/
instance : LT CivilDate where
  lt first second := first.year < second.year ∨ first.year = second.year ∧
    (first.month < second.month ∨ first.month = second.month ∧ first.day < second.day)

theorem lt_def : first < second ↔ first.year < second.year ∨ first.year = second.year ∧
    (first.month < second.month ∨ first.month = second.month ∧ first.day < second.day) :=
  Iff.rfl

theorem lt_trichotomy (first second : CivilDate) :
    first < second ∨ first = second ∨ second < first := by
  rw [lt_def, lt_def]
  by_cases equal : first.year = second.year ∧ first.month = second.month ∧ first.day = second.day
  · exact .inr (.inl (same equal.1 equal.2.1 equal.2.2))
  · omega

/-- The next day is the first one that is after a date. -/
theorem next_of_lt (before : first < second) : first.next = second ∨ first.next < second := by
  have realMonth := second.realMonth
  have realDay := second.realDay
  have firstDay := first.realDay
  have firstMonth := first.realMonth
  rw [lt_def] at before
  rw [lt_def]
  by_cases within : first.day < daysInMonth first.year first.month
  · unfold next
    rw [dif_pos within]
    by_cases equal : first.year = second.year ∧ first.month = second.month ∧
        first.day + 1 = second.day
    · exact .inl (same equal.1 equal.2.1 equal.2.2)
    · right
      simp only
      omega
  · -- A later day of the same month would be beyond its last one.
    have last : first.year = second.year → first.month = second.month →
        second.day ≤ first.day := by
      intro year month
      rw [← year, ← month] at realDay
      omega
    unfold next
    rw [dif_neg within]
    by_cases later : first.month < 12
    · rw [dif_pos later]
      by_cases equal : first.year = second.year ∧ first.month + 1 = second.month ∧
          1 = second.day
      · exact .inl (same equal.1 equal.2.1 equal.2.2)
      · right
        simp only [firstOf]
        omega
    · rw [dif_neg later]
      by_cases equal : first.year + 1 = second.year ∧ 1 = second.month ∧ 1 = second.day
      · exact .inl (same equal.1 equal.2.1 equal.2.2)
      · right
        simp only [firstOf]
        omega

/-- A measure that grows from each date to later ones, by at least one. -/
def rank (date : CivilDate) : Int := date.year * 372 + date.month * 31 + date.day

/-- A later date has a greater rank. -/
theorem rank_lt (before : first < second) : first.rank < second.rank := by
  have realMonth := first.realMonth
  have realDay := first.realDay
  have realMonth' := second.realMonth
  have realDay' := second.realDay
  have longest := daysInMonth_le first.year first.month
  rw [lt_def] at before
  unfold rank
  omega

/-- The next day is after a date. -/
theorem lt_next (date : CivilDate) : date < date.next := by
  rw [lt_def]
  unfold next
  by_cases within : date.day < daysInMonth date.year date.month
  · rw [dif_pos within]
    simp
  · rw [dif_neg within]
    by_cases later : date.month < 12
    · rw [dif_pos later]
      simp [firstOf]
    · rw [dif_neg later]
      exact .inl (Int.lt_succ date.year)

/-- What one day after the other leads to. -/
theorem lt_induction {motive : CivilDate → CivilDate → Prop}
    (step : ∀ date, motive date date.next)
    (trans : ∀ first second, motive first.next second → motive first second)
    (before : first < second) : motive first second := by
  -- The induction is on how far the ranks of the two dates are apart.
  obtain ⟨distance, apart⟩ : ∃ distance : Nat, (second.rank - first.rank).toNat = distance :=
    ⟨_, rfl⟩
  induction distance using Nat.strongRecOn generalizing first with
  | ind distance ih =>
    have grows := rank_lt before
    have nearer := rank_lt (lt_next first)
    rcases next_of_lt before with rfl | later
    · exact step first
    · have grows' := rank_lt later
      exact trans first second (ih _ (by omega) later rfl)

end CivilDate

/-- A function that counts days: it gives the day after a date one more than the date. -/
def CountsDays (count : CivilDate → Int) : Prop := ∀ date, count date.next = count date + 1

namespace CountsDays

variable {count other : CivilDate → Int}

/-- A function that counts days gives a later date more. -/
theorem count_lt (counts : CountsDays count) {first second : CivilDate} (before : first < second) :
    count first < count second := by
  refine @CivilDate.lt_induction first second (fun date later => count date < count later)
    (fun date => ?_) (fun first second later => ?_) before
  · have step := counts date
    omega
  · have step := counts first
    omega

/-- The order of two dates is that of what counts their days. -/
theorem count_lt_iff (counts : CountsDays count) {first second : CivilDate} :
    count first < count second ↔ first < second := by
  constructor
  · intro less
    rcases CivilDate.lt_trichotomy first second with before | rfl | after
    · exact before
    · exact absurd less (Int.lt_irrefl _)
    · exact absurd (counts.count_lt after) (by omega)
  · exact counts.count_lt

theorem injective (counts : CountsDays count) : Function.Injective count := by
  intro first second equal
  rcases CivilDate.lt_trichotomy first second with before | rfl | after
  · exact absurd (counts.count_lt before) (by omega)
  · rfl
  · exact absurd (counts.count_lt after) (by omega)

/-- A function that counts days gives every integer to a date. -/
theorem surjective (counts : CountsDays count) (epoch : CivilDate) :
    Function.Surjective count := by
  intro number
  -- The induction goes forth from the epoch by days, and back by days.
  induction number using Int.inductionOn' (b := count epoch) with
  | zero => exact ⟨epoch, rfl⟩
  | succ number _ ih =>
    obtain ⟨date, rfl⟩ := ih
    exact ⟨date.next, counts date⟩
  | pred number _ ih =>
    obtain ⟨date, rfl⟩ := ih
    have step := counts date.previous
    rw [CivilDate.next_previous] at step
    exact ⟨date.previous, by omega⟩

/-- Two functions that count days and agree on one date agree on every one. -/
theorem unique (counts : CountsDays count) (counts' : CountsDays other) {epoch : CivilDate}
    (agree : count epoch = other epoch) (date : CivilDate) : count date = other date := by
  -- The two differ by the same on every date.
  have apart {first second : CivilDate} (before : first < second) :
      count second - count first = other second - other first := by
    refine @CivilDate.lt_induction first second
      (fun date later => count later - count date = other later - other date)
      (fun date => ?_) (fun first second later => ?_) before
    · have step := counts date
      have step' := counts' date
      omega
    · have step := counts first
      have step' := counts' first
      omega
  rcases CivilDate.lt_trichotomy epoch date with before | rfl | after
  · have differ := apart before
    omega
  · exact agree
  · have differ := apart after
    omega

end CountsDays

end Klura
