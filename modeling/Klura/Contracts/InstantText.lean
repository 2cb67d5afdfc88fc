import Klura.Contracts.SemanticStop
import Mathlib.Data.List.Induction
import Mathlib.Algebra.Order.Field.Rat
import Mathlib.Tactic.FieldSimp
import Mathlib.Tactic.Ring

/-! The instants that texts denote, and how the texts are read. -/

namespace Klura

/-! Digits. -/

/-- A number in so many decimal digits. -/
def fixedDigits : Nat → Nat → Bytes
  | 0, _ => []
  | count + 1, value => fixedDigits count (value / 10) ++ [UInt8.ofNat (48 + value % 10)]

@[simp] theorem fixedDigits_length (count value : Nat) : (fixedDigits count value).length = count := by
  induction count generalizing value with
  | zero => rfl
  | succ count ih => simp [fixedDigits, ih]

theorem digit_toNat {digit : Nat} (small : digit < 10) : (UInt8.ofNat (48 + digit)).toNat = 48 + digit := by
  rw [UInt8.toNat_ofNat']
  omega

@[simp] theorem fixedDigits_all (count value : Nat) :
    (fixedDigits count value).all isDecimalDigit = true := by
  induction count generalizing value with
  | zero => rfl
  | succ count ih =>
    have last := digit_toNat (Nat.mod_lt value (by omega : 0 < 10))
    have small := Nat.mod_lt value (by omega : 0 < 10)
    simp only [fixedDigits, List.all_append, ih, List.all_cons, List.all_nil, isDecimalDigit, last,
      Bool.true_and, Bool.and_true, decide_eq_true_eq]
    omega

theorem decimalValue_concat (digits : Bytes) (last : UInt8) :
    decimalValue (digits ++ [last]) = 10 * decimalValue digits + (last.toNat - 48) := by
  simp [decimalValue]

theorem decimalValue_fixedDigits {count value : Nat} (small : value < 10 ^ count) :
    decimalValue (fixedDigits count value) = value := by
  induction count generalizing value with
  | zero =>
    have zero : value = 0 := by simpa using small
    rw [zero]
    rfl
  | succ count ih =>
    have shorter : value / 10 < 10 ^ count := by
      rw [Nat.pow_succ] at small
      omega
    rw [fixedDigits, decimalValue_concat, ih shorter, digit_toNat (Nat.mod_lt value (by omega))]
    omega

theorem fixedDigits_decimalValue (digits : Bytes) (all : digits.all isDecimalDigit = true) :
    fixedDigits digits.length (decimalValue digits) = digits := by
  -- The induction takes the last digit off.
  induction digits using List.reverseRecOn with
  | nil => rfl
  | append_singleton digits last ih =>
    simp only [List.all_append, List.all_cons, List.all_nil, Bool.and_true, Bool.and_eq_true,
      isDecimalDigit, decide_eq_true_eq] at all
    obtain ⟨earlier, least, most⟩ := all
    have whole : (10 * decimalValue digits + (last.toNat - 48)) / 10 = decimalValue digits := by
      omega
    have rest : 48 + (10 * decimalValue digits + (last.toNat - 48)) % 10 = last.toNat := by omega
    rw [List.length_append, List.length_singleton, decimalValue_concat, fixedDigits, whole, rest,
      ih earlier, UInt8.ofNat_toNat]

theorem decimalValue_lt (digits : Bytes) (all : digits.all isDecimalDigit = true) :
    decimalValue digits < 10 ^ digits.length := by
  induction digits using List.reverseRecOn with
  | nil => decide
  | append_singleton digits last ih =>
    simp only [List.all_append, List.all_cons, List.all_nil, Bool.and_true, Bool.and_eq_true,
      isDecimalDigit, decide_eq_true_eq] at all
    have shorter := ih all.1
    rw [List.length_append, List.length_singleton, decimalValue_concat, Nat.pow_succ]
    omega

theorem decimalValue_zeros (digits : Bytes) (count : Nat) :
    decimalValue (digits ++ List.replicate count 48) = decimalValue digits * 10 ^ count := by
  induction count with
  | zero => simp
  | succ count ih =>
    rw [List.replicate_succ', ← List.append_assoc, decimalValue_concat, ih, Nat.pow_succ]
    simp only [UInt8.reduceToNat, Nat.sub_self, Nat.add_zero]
    ring

/-! The parts of a form. -/

theorem digitsAt_append {count : Nat} {digits : Bytes} (length : digits.length = count)
    (all : digits.all isDecimalDigit = true) (rest : Bytes) :
    digitsAt count (digits ++ rest) = some (digits, rest) := by
  subst length
  simp [digitsAt, all]

theorem digitsAt_some {count : Nat} {text digits rest : Bytes}
    (found : digitsAt count text = some (digits, rest)) :
    text = digits ++ rest ∧ digits.length = count ∧ digits.all isDecimalDigit = true := by
  unfold digitsAt at found
  split at found
  · rename_i holds
    cases found
    exact ⟨(List.take_append_drop count text).symm, holds⟩
  · nomatch found

@[simp] theorem literalAt_cons (byte : UInt8) (rest : Bytes) :
    literalAt byte (byte :: rest) = some rest := by
  simp [literalAt]

theorem literalAt_some {byte : UInt8} {text rest : Bytes} (found : literalAt byte text = some rest) :
    text = byte :: rest := by
  unfold literalAt at found
  split at found
  · cases found
  · split at found
    · rename_i same
      cases found
      rw [same]
    · cases found

theorem parseDecimal_fixedDigits {count value : Nat} (some_ : 0 < count) (few : count ≤ 4)
    (small : value < 10 ^ count) (field : String) :
    parseDecimal (fixedDigits count value) field = .ok value := by
  have present : fixedDigits count value ≠ [] := by
    intro empty
    have length := fixedDigits_length count value
    rw [empty] at length
    simp only [List.length_nil] at length
    omega
  have least : 10 ^ count ≤ 10 ^ 4 := Nat.pow_le_pow_right (by omega) few
  have safe : ¬JsonNumber.maxSafeInteger < value := by
    unfold JsonNumber.maxSafeInteger
    omega
  unfold parseDecimal
  rw [decimalValue_fixedDigits small]
  simp [present, safe]

theorem parseDecimal_ok {digits : Bytes} {field : String} {value : Nat}
    (read : parseDecimal digits field = .ok value) : value = decimalValue digits := by
  unfold parseDecimal at read
  split at read
  · nomatch read
  · split at read
    · nomatch read
    · cases read
      rfl

/-! Instants as they are written. -/

/-- An offset from UTC as it is written. -/
structure WrittenOffset where
  ahead : Bool
  hour : Fin 24
  minute : Fin 60

/-- The text of an offset. -/
def WrittenOffset.text (offset : WrittenOffset) : Bytes :=
  (if offset.ahead then 43 else 45) ::
    (fixedDigits 2 offset.hour ++ 58 :: fixedDigits 2 offset.minute)

/-- The seconds that an offset is ahead of UTC. -/
def WrittenOffset.seconds (offset : WrittenOffset) : Int :=
  (if offset.ahead then 1 else -1) * (offset.hour * 3600 + offset.minute * 60)

/-- The text of an offset, or the letter for none. -/
def offsetText : Option WrittenOffset → Bytes
  | none => [90]
  | some offset => offset.text

/-- The seconds that an instant's clock is ahead of UTC. -/
def offsetSeconds : Option WrittenOffset → Int
  | none => 0
  | some offset => offset.seconds

/-- An instant as it is written: a date, a clock time with at most nine digits of a second's
fraction, and an offset. -/
structure WrittenInstant where
  date : CivilDate
  years : 0 ≤ date.year ∧ date.year ≤ 9999
  hour : Fin 24
  minute : Fin 60
  second : Fin 60
  fraction : Option Bytes
  digits : ∀ digits ∈ fraction,
    digits.all isDecimalDigit = true ∧ 1 ≤ digits.length ∧ digits.length ≤ 9
  offset : Option WrittenOffset

/-- The text of a fraction behind its point, if there is one. -/
def fractionText : Option Bytes → Bytes
  | none => []
  | some digits => 46 :: digits

/-- The text of an instant. -/
def WrittenInstant.text (written : WrittenInstant) : Bytes :=
  fixedDigits 4 written.date.year.toNat ++ 45 :: (fixedDigits 2 written.date.month ++ 45 ::
    (fixedDigits 2 written.date.day ++ 84 :: (fixedDigits 2 written.hour ++ 58 ::
      (fixedDigits 2 written.minute ++ 58 :: (fixedDigits 2 written.second ++
        (fractionText written.fraction ++ offsetText written.offset))))))

/-- The part of a second that a fraction denotes. -/
def fractionSeconds (fraction : Option Bytes) : ℚ :=
  decimalValue (fraction.getD []) / 10 ^ (fraction.getD []).length

/-- The seconds from the epoch to an instant, when days are counted from the epoch. -/
def WrittenInstant.seconds (count : CivilDate → Int) (written : WrittenInstant) : ℚ :=
  ((count written.date * 86400 + (written.hour * 3600 + written.minute * 60 + written.second -
    offsetSeconds written.offset) : Int) : ℚ) + fractionSeconds written.fraction

/-! What is read of an instant that is written. -/

theorem offsetText_head (offset : Option WrittenOffset) : ∃ first rest,
    offsetText offset = first :: rest ∧ isDecimalDigit first = false ∧ first ≠ 46 := by
  cases offset with
  | none => exact ⟨90, [], rfl, by decide, by decide⟩
  | some offset =>
    refine ⟨_, _, rfl, ?_⟩
    cases offset.ahead <;> exact ⟨by decide, by decide⟩

theorem fractionAt_text {fraction : Option Bytes} (digits : ∀ digits ∈ fraction,
    digits.all isDecimalDigit = true ∧ 1 ≤ digits.length ∧ digits.length ≤ 9)
    (offset : Option WrittenOffset) :
    fractionAt (fractionText fraction ++ offsetText offset) = some (fraction, offsetText offset) := by
  obtain ⟨first, rest, text, nondigit, unlike⟩ := offsetText_head offset
  rw [text]
  cases fraction with
  | none => simp [fractionAt, fractionText, literalAt, unlike]
  | some found =>
    obtain ⟨all, least, most⟩ := digits found rfl
    have all := List.all_eq_true.mp all
    have taken : (found ++ first :: rest).takeWhile isDecimalDigit = found := by
      rw [List.takeWhile_append_of_pos all, List.takeWhile_cons_of_neg (by simp [nondigit]),
        List.append_nil]
    have dropped : (found ++ first :: rest).dropWhile isDecimalDigit = first :: rest := by
      rw [List.dropWhile_append_of_pos all, List.dropWhile_cons_of_neg (by simp [nondigit])]
    have text : fractionText (some found) ++ first :: rest = 46 :: (found ++ first :: rest) := rfl
    rw [text, fractionAt, literalAt_cons]
    simp only [taken, dropped, least, most, and_self, if_true]

theorem fixedDigits_two (value : Nat) : fixedDigits 2 value =
    [UInt8.ofNat (48 + value / 10 % 10), UInt8.ofNat (48 + value % 10)] := by
  simp [fixedDigits]

theorem clockAt_text (hour minute : Nat) (rest : Bytes) :
    clockAt (fixedDigits 2 hour ++ 58 :: (fixedDigits 2 minute ++ rest)) =
      some ((fixedDigits 2 hour, fixedDigits 2 minute), rest) := by
  unfold clockAt
  simp [digitsAt_append (fixedDigits_length 2 hour) (fixedDigits_all 2 hour),
    digitsAt_append (fixedDigits_length 2 minute) (fixedDigits_all 2 minute)]

theorem isOffset_text (offset : Option WrittenOffset) : isOffset (offsetText offset) = true := by
  cases offset with
  | none => decide
  | some offset =>
    have clock := clockAt_text offset.hour offset.minute []
    rw [List.append_nil] at clock
    cases ahead : offset.ahead <;> simp [offsetText, WrittenOffset.text, isOffset, ahead, clock]

theorem matchInstant_text (written : WrittenInstant) : matchInstant written.text = some {
    year := fixedDigits 4 written.date.year.toNat
    month := fixedDigits 2 written.date.month
    day := fixedDigits 2 written.date.day
    hour := fixedDigits 2 written.hour
    minute := fixedDigits 2 written.minute
    second := fixedDigits 2 written.second
    fraction := written.fraction
    offset := offsetText written.offset } := by
  have digits (count value : Nat) (rest : Bytes) :
      digitsAt count (fixedDigits count value ++ rest) = some (fixedDigits count value, rest) :=
    digitsAt_append (fixedDigits_length count value) (fixedDigits_all count value) rest
  unfold matchInstant WrittenInstant.text dateAt
  simp [digits, clockAt_text, fractionAt_text written.digits, isOffset_text]

theorem parseOffset_text (offset : Option WrittenOffset) (field : String) :
    parseOffset (offsetText offset) field = .ok (offsetSeconds offset) := by
  have letter : utf8 "Z" = [90] := by decide
  cases offset with
  | none =>
    unfold parseOffset offsetText
    rw [letter, if_pos rfl]
    rfl
  | some offset =>
    have hour := offset.hour.isLt
    have minute := offset.minute.isLt
    have readHour := parseDecimal_fixedDigits (by omega : 0 < 2) (by omega)
      (by omega : offset.hour.val < 10 ^ 2) s!"{field}.offset_hour"
    have readMinute := parseDecimal_fixedDigits (by omega : 0 < 2) (by omega)
      (by omega : offset.minute.val < 10 ^ 2) s!"{field}.offset_minute"
    have real : ¬(23 < offset.hour.val ∨ 59 < offset.minute.val) := by omega
    have hours : ((offsetText (some offset)).drop 1).take 2 = fixedDigits 2 offset.hour := by
      simp [offsetText, WrittenOffset.text, fixedDigits_two]
    have minutes : ((offsetText (some offset)).drop 4).take 2 = fixedDigits 2 offset.minute := by
      simp [offsetText, WrittenOffset.text, fixedDigits_two]
    have unlike : offsetText (some offset) ≠ utf8 "Z" := by
      rw [letter]
      simp [offsetText, WrittenOffset.text, fixedDigits_two]
    have sign : (offsetText (some offset)).head? = some 43 ↔ offset.ahead = true := by
      cases ahead : offset.ahead <;> simp [offsetText, WrittenOffset.text, ahead]
    unfold parseOffset
    rw [if_neg unlike, hours, minutes, readHour, readMinute]
    simp only [bind, Except.bind, real, if_false, sign]
    rfl

theorem WrittenInstant.text_length (written : WrittenInstant) : written.text.length ≤ 64 := by
  have fraction : (fractionText written.fraction).length ≤ 10 := by
    cases found : written.fraction with
    | none => exact Nat.zero_le _
    | some digits =>
      have most := (written.digits digits found).2.2
      simp only [fractionText, List.length_cons]
      omega
  have offset : (offsetText written.offset).length ≤ 6 := by
    cases written.offset with
    | none => exact Nat.le_add_left 1 5
    | some offset => simp [offsetText, WrittenOffset.text]
  unfold text
  simp only [List.length_append, List.length_cons, fixedDigits_length]
  omega

/-- The nanoseconds of a fraction. -/
def fractionNanoseconds (fraction : Option Bytes) : Nat :=
  decimalValue (fraction.getD [] ++ List.replicate (9 - (fraction.getD []).length) 48)

theorem fractionNanoseconds_eq {fraction : Option Bytes} (short : (fraction.getD []).length ≤ 9) :
    (fractionNanoseconds fraction : ℚ) = fractionSeconds fraction * 1000000000 := by
  unfold fractionNanoseconds fractionSeconds
  -- The zeros make up for the digits that are not written.
  have power : (10 : ℚ) ^ (fraction.getD []).length * 10 ^ (9 - (fraction.getD []).length) =
      1000000000 := by
    rw [← pow_add, Nat.add_sub_cancel' short]
    norm_num
  have positive : (10 : ℚ) ^ (fraction.getD []).length ≠ 0 := pow_ne_zero _ (by norm_num)
  rw [decimalValue_zeros, ← power]
  push_cast
  field_simp

theorem assertCalendarDate_date (date : CivilDate) (years : 0 ≤ date.year) (field : String) :
    assertCalendarDate date.year.toNat date.month date.day field = .ok () := by
  have realMonth := date.realMonth
  have realDay := date.realDay
  unfold assertCalendarDate
  rw [Int.toNat_of_nonneg years, if_neg (by omega)]

theorem assertCalendarDate_ok {year month day : Nat} {field : String}
    (passes : assertCalendarDate year month day field = .ok ()) :
    (1 ≤ month ∧ month ≤ 12) ∧ 1 ≤ day ∧ day ≤ daysInMonth year month := by
  unfold assertCalendarDate at passes
  split at passes
  · nomatch passes
  · omega

/-- An instant is read as its nanosecond, counted from the epoch. -/
theorem parseRfc3339Instant_text (written : WrittenInstant) (field : String) :
    parseRfc3339Instant written.text field = .ok
      ((daysFromCivil written.date.year written.date.month written.date.day * 86400 +
        (written.hour * 3600 + written.minute * 60 + written.second -
          offsetSeconds written.offset)) * 1000000000 + fractionNanoseconds written.fraction) := by
  have years := written.years
  have realMonth := written.date.realMonth
  have realDay := written.date.realDay
  have longest := daysInMonth_le written.date.year written.date.month
  have hour := written.hour.isLt
  have minute := written.minute.isLt
  have second := written.second.isLt
  have short := written.text_length
  have read {count value : Nat} (some_ : 0 < count) (few : count ≤ 4) (small : value < 10 ^ count)
      (field : String) := parseDecimal_fixedDigits some_ few small field
  have real : ¬(23 < written.hour.val ∨ 59 < written.minute.val ∨ 59 < written.second.val) := by
    omega
  have date := assertCalendarDate_date written.date years.1 field
  unfold parseRfc3339Instant parseBoundedText
  rw [if_neg (by omega)]
  simp only [bind, Except.bind, matchInstant_text]
  rw [read (by omega) (by omega) (by omega : written.date.year.toNat < 10 ^ 4)]
  dsimp only
  rw [read (by omega) (by omega) (by omega : written.date.month < 10 ^ 2)]
  dsimp only
  rw [read (by omega) (by omega) (by omega : written.date.day < 10 ^ 2)]
  dsimp only
  rw [read (by omega) (by omega) (by omega : written.hour.val < 10 ^ 2)]
  dsimp only
  rw [read (by omega) (by omega) (by omega : written.minute.val < 10 ^ 2)]
  dsimp only
  rw [read (by omega) (by omega) (by omega : written.second.val < 10 ^ 2)]
  dsimp only
  rw [date]
  dsimp only
  rw [if_neg real, parseOffset_text, Int.toNat_of_nonneg years.1]
  rfl

/-! What is accepted is written. -/

theorem dateAt_some {text year month day rest : Bytes}
    (found : dateAt text = some ((year, month, day), rest)) :
    text = year ++ 45 :: (month ++ 45 :: (day ++ rest)) ∧
      (year.length = 4 ∧ year.all isDecimalDigit = true) ∧
      (month.length = 2 ∧ month.all isDecimalDigit = true) ∧
      day.length = 2 ∧ day.all isDecimalDigit = true := by
  unfold dateAt at found
  simp only [Option.bind_eq_bind, Option.bind_eq_some_iff, Option.some.injEq, Prod.mk.injEq,
    Prod.exists] at found
  obtain ⟨_, _, years, _, dash, _, _, months, _, dash', _, _, days, ⟨rfl, rfl, rfl⟩, rfl⟩ := found
  obtain ⟨text, year⟩ := digitsAt_some years
  obtain ⟨text', month⟩ := digitsAt_some months
  obtain ⟨text'', day⟩ := digitsAt_some days
  rw [text, literalAt_some dash, text', literalAt_some dash', text'']
  exact ⟨rfl, year, month, day⟩

theorem clockAt_some {text hour minute rest : Bytes}
    (found : clockAt text = some ((hour, minute), rest)) :
    text = hour ++ 58 :: (minute ++ rest) ∧
      (hour.length = 2 ∧ hour.all isDecimalDigit = true) ∧
      minute.length = 2 ∧ minute.all isDecimalDigit = true := by
  unfold clockAt at found
  simp only [Option.bind_eq_bind, Option.bind_eq_some_iff, Option.some.injEq, Prod.mk.injEq,
    Prod.exists] at found
  obtain ⟨_, _, hours, _, colon, _, _, minutes, ⟨rfl, rfl⟩, rfl⟩ := found
  obtain ⟨text, hour⟩ := digitsAt_some hours
  obtain ⟨text', minute⟩ := digitsAt_some minutes
  rw [text, literalAt_some colon, text']
  exact ⟨rfl, hour, minute⟩

theorem fractionAt_some {text rest : Bytes} {fraction : Option Bytes}
    (found : fractionAt text = some (fraction, rest)) : text = fractionText fraction ++ rest ∧
      ∀ digits ∈ fraction,
        digits.all isDecimalDigit = true ∧ 1 ≤ digits.length ∧ digits.length ≤ 9 := by
  unfold fractionAt at found
  split at found
  · cases found
    exact ⟨rfl, by rintro _ ⟨⟩⟩
  · rename_i behind point
    dsimp only at found
    split at found
    · rename_i lengths
      cases found
      refine ⟨?_, ?_⟩
      · have whole : behind.takeWhile isDecimalDigit ++ behind.dropWhile isDecimalDigit = behind :=
          List.takeWhile_append_dropWhile
        simp only [fractionText, List.cons_append]
        rw [literalAt_some point, whole]
      · rintro digits ⟨⟩
        exact ⟨List.all_takeWhile, lengths⟩
    · cases found

/-- A text that is an offset is written as one, if its hour and its minute are real. -/
theorem isOffset_some {text : Bytes} {field : String} {seconds : Int} (form : isOffset text = true)
    (read : parseOffset text field = .ok seconds) :
    ∃ offset, offsetText offset = text := by
  cases text with
  | nil => cases form
  | cons first rest =>
    rw [isOffset] at form
    split at form
    · rename_i letter
      rw [List.isEmpty_iff.mp form, letter]
      exact ⟨none, rfl⟩
    · rename_i unlike
      rw [Bool.and_eq_true] at form
      obtain ⟨sign, clock⟩ := form
      cases found : clockAt rest with
      | none =>
        rw [found] at clock
        cases clock
      | some parts =>
      obtain ⟨⟨hour, minute⟩, behind⟩ := parts
      have empty : behind.isEmpty = true := by
        rw [found] at clock
        exact clock
      obtain ⟨same, ⟨hours, hourDigits⟩, minutes, minuteDigits⟩ := clockAt_some found
      rw [List.isEmpty_iff.mp empty, List.append_nil] at same
      subst same
      -- The slices that are read are the two numbers.
      have sliceHour : ((first :: (hour ++ 58 :: minute)).drop 1).take 2 = hour := by
        rw [List.drop_one, List.tail_cons, ← hours, List.take_left]
      have sliceMinute : ((first :: (hour ++ 58 :: minute)).drop 4).take 2 = minute := by
        have skipped : (first :: (hour ++ 58 :: minute)).drop 4 = minute := by
          have back : first :: (hour ++ 58 :: minute) = (first :: (hour ++ [58])) ++ minute := by
            simp
          have length : (first :: (hour ++ [58])).length = 4 := by simp [hours]
          rw [back, ← length, List.drop_left]
        rw [skipped, ← minutes, List.take_length]
      have letter : first :: (hour ++ 58 :: minute) ≠ utf8 "Z" := by
        intro same
        have starts : first = 90 := by
          have letter : utf8 "Z" = [90] := by decide
          rw [letter] at same
          exact (List.cons.inj same).1
        exact unlike starts
      unfold parseOffset at read
      rw [if_neg letter, sliceHour, sliceMinute] at read
      simp only [bind, Except.bind] at read
      split at read
      · cases read
      rename_i hourNumber readHour
      split at read
      · cases read
      rename_i minuteNumber readMinute
      split at read
      · cases read
      rename_i real
      have hourValue := parseDecimal_ok readHour
      have minuteValue := parseDecimal_ok readMinute
      refine ⟨some ⟨first == 43, ⟨hourNumber, by omega⟩, ⟨minuteNumber, by omega⟩⟩, ?_⟩
      have hourText := fixedDigits_decimalValue hour hourDigits
      have minuteText := fixedDigits_decimalValue minute minuteDigits
      rw [hours, ← hourValue] at hourText
      rw [minutes, ← minuteValue] at minuteText
      have signed : (if (first == 43) = true then (43 : UInt8) else 45) = first := by
        rw [Bool.or_eq_true, decide_eq_true_eq, decide_eq_true_eq] at sign
        rcases sign with plus | minus
        · subst plus
          rfl
        · subst minus
          rfl
      simp only [offsetText, WrittenOffset.text, hourText, minuteText, signed]

theorem matchInstant_some {text : Bytes} {groups : InstantGroupsV1}
    (found : matchInstant text = some groups) :
    text = groups.year ++ 45 :: (groups.month ++ 45 :: (groups.day ++ 84 :: (groups.hour ++ 58 ::
        (groups.minute ++ 58 :: (groups.second ++
          (fractionText groups.fraction ++ groups.offset)))))) ∧
      ((groups.year.length = 4 ∧ groups.year.all isDecimalDigit = true) ∧
        (groups.month.length = 2 ∧ groups.month.all isDecimalDigit = true) ∧
        groups.day.length = 2 ∧ groups.day.all isDecimalDigit = true) ∧
      ((groups.hour.length = 2 ∧ groups.hour.all isDecimalDigit = true) ∧
        groups.minute.length = 2 ∧ groups.minute.all isDecimalDigit = true) ∧
      (groups.second.length = 2 ∧ groups.second.all isDecimalDigit = true) ∧
      (∀ digits ∈ groups.fraction,
        digits.all isDecimalDigit = true ∧ 1 ≤ digits.length ∧ digits.length ≤ 9) ∧
      isOffset groups.offset = true := by
  unfold matchInstant at found
  simp only [Option.bind_eq_bind, Option.bind_eq_some_iff, Prod.exists] at found
  obtain ⟨year, month, day, _, date, _, letter, hour, minute, _, clock, _, colon, second, _, seconds,
    fraction, offset, rest, found⟩ := found
  split at found
  · rename_i form
    cases found
    obtain ⟨text, dates⟩ := dateAt_some date
    obtain ⟨times, clocks⟩ := clockAt_some clock
    obtain ⟨behind, digits⟩ := digitsAt_some seconds
    obtain ⟨ends, fractions⟩ := fractionAt_some rest
    refine ⟨?_, dates, clocks, digits, fractions, form⟩
    rw [text, literalAt_some letter, times, literalAt_some colon, behind, ends]
  · nomatch found

/-- What is accepted as an instant is written as one. -/
theorem parseRfc3339Instant_ok {text : Bytes} {field : String} {instant : Int}
    (accepted : parseRfc3339Instant text field = .ok instant) :
    ∃ written : WrittenInstant, written.text = text := by
  unfold parseRfc3339Instant parseBoundedText at accepted
  split at accepted
  · nomatch accepted
  simp only [bind, Except.bind] at accepted
  split at accepted
  · nomatch accepted
  rename_i groups found
  obtain ⟨whole, ⟨⟨years, yearDigits⟩, ⟨months, monthDigits⟩, days, dayDigits⟩,
    ⟨⟨hours, hourDigits⟩, minutes, minuteDigits⟩, ⟨seconds, secondDigits⟩, fractions, form⟩ :=
      matchInstant_some found
  -- Each number is the one that its digits denote.
  split at accepted
  · nomatch accepted
  rename_i year readYear
  split at accepted
  · nomatch accepted
  rename_i month readMonth
  split at accepted
  · nomatch accepted
  rename_i day readDay
  split at accepted
  · nomatch accepted
  rename_i hour readHour
  split at accepted
  · nomatch accepted
  rename_i minute readMinute
  split at accepted
  · nomatch accepted
  rename_i second readSecond
  split at accepted
  · nomatch accepted
  rename_i real
  split at accepted
  · nomatch accepted
  rename_i clock
  split at accepted
  · nomatch accepted
  rename_i offset readOffset
  obtain ⟨realMonth, realDay⟩ := assertCalendarDate_ok real
  obtain ⟨writtenOffset, offsetText⟩ := isOffset_some form readOffset
  have yearText := fixedDigits_decimalValue groups.year yearDigits
  have monthText := fixedDigits_decimalValue groups.month monthDigits
  have dayText := fixedDigits_decimalValue groups.day dayDigits
  have hourText := fixedDigits_decimalValue groups.hour hourDigits
  have minuteText := fixedDigits_decimalValue groups.minute minuteDigits
  have secondText := fixedDigits_decimalValue groups.second secondDigits
  have yearBound := decimalValue_lt groups.year yearDigits
  rw [years, ← parseDecimal_ok readYear] at yearText
  rw [months, ← parseDecimal_ok readMonth] at monthText
  rw [days, ← parseDecimal_ok readDay] at dayText
  rw [hours, ← parseDecimal_ok readHour] at hourText
  rw [minutes, ← parseDecimal_ok readMinute] at minuteText
  rw [seconds, ← parseDecimal_ok readSecond] at secondText
  rw [years, ← parseDecimal_ok readYear] at yearBound
  refine ⟨{
    date := ⟨year, month, day, realMonth, realDay⟩
    years := ⟨by simp only; omega, by simp only; omega⟩
    hour := ⟨hour, by omega⟩
    minute := ⟨minute, by omega⟩
    second := ⟨second, by omega⟩
    fraction := groups.fraction
    digits := fractions
    offset := writtenOffset }, ?_⟩
  rw [whole]
  simp only [WrittenInstant.text, Int.toNat_natCast, yearText, monthText, dayText, hourText,
    minuteText, secondText, offsetText]

end Klura
