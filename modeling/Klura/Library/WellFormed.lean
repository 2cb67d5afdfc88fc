import Klura.Library.Utf8

/-! What a string becomes on its way through bytes: each half of a pair is replaced. -/

namespace Klura

/-- A character, or its replacement where it is half of a pair. -/
def CodePoint.wellFormed (point : CodePoint) : Units :=
  if point.isLone then [replacementUnit] else point.units

/-- A string with a replacement for each half of a pair. -/
def toWellFormed (text : Units) : Units := (codePoints text).flatMap CodePoint.wellFormed

/-- What a buffer holds of any string is read as the string with its replacements. -/
theorem decodeUtf8_wellFormed (text : Units) : decodeUtf8 (encodeUtf8 text) = toWellFormed text := by
  have points : ∀ points : List CodePoint, (∀ high low, CodePoint.pair high low ∈ points →
        isHighSurrogate high = true ∧ isLowSurrogate low = true) →
      decodeUtf8 (points.flatMap CodePoint.bytes) = points.flatMap CodePoint.wellFormed := by
    intro points
    induction points with
    | nil => intros; rfl
    | cons point rest ih =>
      intro paired
      have later := ih fun high low member => paired high low (by simp [member])
      rw [List.flatMap_cons, List.flatMap_cons, ← later]
      cases point with
      | pair high low =>
        obtain ⟨first, second⟩ := paired high low (by simp)
        exact decodeUtf8_pair first second _
      | single unit =>
        by_cases lone : (CodePoint.single unit).isLone = true
        · -- Half of a pair takes the bytes of its replacement.
          have surrogate : (isHighSurrogate unit || isLowSurrogate unit) = true := lone
          have large : 0xD800 ≤ unit.toNat := by
            rcases Bool.or_eq_true_iff.mp surrogate with high | low
            · exact (of_decide_eq_true high).1
            · have : 0xDC00 ≤ unit.toNat ∧ unit.toNat < 0xE000 := of_decide_eq_true low
              omega
          have bytes : CodePoint.bytes (.single unit) = unitBytes replacementUnit := by
            rw [CodePoint.bytes, unitBytes, if_neg (by omega), if_neg (by omega), if_pos surrogate]
            decide
          rw [bytes, CodePoint.wellFormed, if_pos lone]
          exact decodeUtf8_unit (by decide) (by decide) _
        · have alone : (isHighSurrogate unit || isLowSurrogate unit) = false :=
            Bool.eq_false_iff.mpr lone
          obtain ⟨high, low⟩ := Bool.or_eq_false_iff.mp alone
          rw [CodePoint.wellFormed, if_neg lone]
          exact decodeUtf8_unit high low _
  exact points _ (codePoints_paired text)

theorem codePoints_cons {unit : UInt16} (high : isHighSurrogate unit = false) (text : Units) :
    codePoints (unit :: text) = .single unit :: codePoints text := by
  cases text with
  | nil => rfl
  | cons next rest => rw [codePoints, if_neg (by rw [high]; simp)]

theorem toWellFormed_cons {unit : UInt16} (high : isHighSurrogate unit = false)
    (low : isLowSurrogate unit = false) (text : Units) :
    toWellFormed (unit :: text) = unit :: toWellFormed text := by
  rw [toWellFormed, codePoints_cons high, List.flatMap_cons, CodePoint.wellFormed,
    if_neg (by simp [CodePoint.isLone, high, low])]
  rfl

theorem toWellFormed_append (front back : Units)
    (apart : ∀ unit ∈ back.head?, isLowSurrogate unit = false) :
    toWellFormed (front ++ back) = toWellFormed front ++ toWellFormed back := by
  rw [toWellFormed, codePoints_append front back apart, List.flatMap_append]
  rfl

theorem encodeUtf8_append (front back : Units)
    (apart : ∀ unit ∈ back.head?, isLowSurrogate unit = false) :
    encodeUtf8 (front ++ back) = encodeUtf8 front ++ encodeUtf8 back := by
  rw [encodeUtf8, codePoints_append front back apart, List.flatMap_append]
  rfl

/-- The characters of strings in a row of which the first ends in no first half of a pair. -/
theorem codePoints_append_last (front back : Units)
    (apart : ∀ unit ∈ front.getLast?, isHighSurrogate unit = false) :
    codePoints (front ++ back) = codePoints front ++ codePoints back := by
  induction front using codePoints.induct with
  | case1 => rfl
  | case2 unit => exact codePoints_cons (apart unit rfl) back
  | case3 first second rest paired ih =>
    have later : ∀ unit ∈ rest.getLast?, isHighSurrogate unit = false := by
      intro unit member
      apply apart unit
      rw [List.getLast?_cons, List.getLast?_cons, Option.mem_def.mp member]
      rfl
    simp [codePoints, paired, ih later]
  | case4 first second rest unpaired ih =>
    have later : ∀ unit ∈ (second :: rest).getLast?, isHighSurrogate unit = false := by
      intro unit member
      apply apart unit
      rw [List.getLast?_cons, Option.mem_def.mp member]
      rfl
    have rest := ih later
    simp only [List.cons_append] at rest
    simp only [List.cons_append, codePoints, unpaired, rest, if_false, Bool.false_eq_true]

theorem encodeUtf8_append_last (front back : Units)
    (apart : ∀ unit ∈ front.getLast?, isHighSurrogate unit = false) :
    encodeUtf8 (front ++ back) = encodeUtf8 front ++ encodeUtf8 back := by
  rw [encodeUtf8, codePoints_append_last front back apart, List.flatMap_append]
  rfl

end Klura
