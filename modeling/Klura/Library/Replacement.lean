import Mathlib.Data.List.Infix
import Klura.Library.CodeUnits

/-! Replacing every match of a pattern in a string from left to right, and templates with named
places. -/

namespace Klura

/-- A pattern: for a string that starts with a match, the text for its place and its length. -/
abbrev Pattern : Type := Units → Option (Units × Nat)

namespace Pattern

/-- A string with the matches of a pattern replaced, once what is left of a match is skipped. -/
def replaceFrom (pattern : Pattern) : Nat → Units → Units
  | _, [] => []
  | skip + 1, _ :: rest => replaceFrom pattern skip rest
  | 0, unit :: rest =>
    match pattern (unit :: rest) with
    | some (text, length) => text ++ replaceFrom pattern (length - 1) rest
    | none => unit :: replaceFrom pattern 0 rest

/-- A string with every match of a pattern replaced. -/
def replaceAll (pattern : Pattern) (text : Units) : Units := replaceFrom pattern 0 text

/-- Whether a match of a pattern starts somewhere in a string. -/
def found (pattern : Pattern) (text : Units) : Bool :=
  text.tails.any fun back => (pattern back).isSome

variable {pattern : Pattern}

theorem found_eq_false {text : Units} :
    pattern.found text = false ↔ ∀ back, back <:+ text → pattern back = none := by
  simp [found, List.any_eq_false, List.mem_tails]

theorem found_tail {unit : UInt16} {rest : Units} (clear : pattern.found (unit :: rest) = false) :
    pattern.found rest = false := by
  rw [found_eq_false] at clear ⊢
  intro back suffix
  exact clear back (suffix.trans (List.suffix_cons unit rest))

/-- A string without a match stays as it is. -/
theorem replaceAll_clear {text : Units} (clear : pattern.found text = false) :
    pattern.replaceAll text = text := by
  induction text with
  | nil => rfl
  | cons unit rest ih =>
    have none_here := found_eq_false.mp clear (unit :: rest) (List.suffix_refl _)
    have kept := ih (found_tail clear)
    simp only [replaceAll] at kept
    simp only [replaceAll, replaceFrom, none_here, kept]

end Pattern

/-- Whether a string occurs in another. -/
def includes (text needle : Units) : Bool := text.tails.any fun back => needle.isPrefixOf back

/-- A string occurs in another when the other is the string between two parts. -/
theorem includes_iff {text needle : Units} : includes text needle = true ↔ needle <:+: text := by
  simp only [includes, List.any_eq_true, List.mem_tails, List.isPrefixOf_iff_prefix]
  constructor
  · intro occurs
    obtain ⟨back, suffix, start⟩ := occurs
    exact start.isInfix.trans suffix.isInfix
  · intro occurs
    obtain ⟨front, back, whole⟩ := occurs
    have suffix : needle ++ back <:+ text := ⟨front, by simpa using whole⟩
    exact ⟨needle ++ back, suffix, List.prefix_append needle back⟩

/-- The pattern of one string, with the text for its place. -/
def literalPattern (needle replacement : Units) : Pattern := fun text =>
  if needle.isPrefixOf text then some (replacement, needle.length) else none

section Literal

variable {needle replacement : Units}

variable {text : Units}

theorem literalPattern_start (start : needle <+: text) :
    literalPattern needle replacement text = some (replacement, needle.length) := by
  simp [literalPattern, List.isPrefixOf_iff_prefix, start]

theorem literalPattern_none (apart : ¬ needle <+: text) :
    literalPattern needle replacement text = none := by
  simp [literalPattern, List.isPrefixOf_iff_prefix, apart]

/-- A string that does not include the needle stays as it is. -/
theorem replaceAll_absent (absent : includes text needle = false) :
    (literalPattern needle replacement).replaceAll text = text := by
  apply Pattern.replaceAll_clear
  rw [Pattern.found_eq_false]
  intro back suffix
  apply literalPattern_none
  intro start
  rw [← Bool.not_eq_true, includes_iff] at absent
  exact absent (start.isInfix.trans suffix.isInfix)

variable {mark : UInt16}

/-- A needle without a mark that starts a string starts it before the mark. -/
theorem prefix_before_mark (front : Units) {back : Units} (outside : mark ∉ needle)
    (start : needle <+: front ++ mark :: back) : needle <+: front := by
  rcases List.prefix_or_prefix_of_prefix start (List.prefix_append front (mark :: back)) with
    inside | whole
  · exact inside
  · obtain ⟨after, rfl⟩ := whole
    cases after with
    | nil => simp
    | cons unit rest =>
      -- A needle that goes on behind the front would hold the mark.
      have continued := (List.prefix_append_right_inj front).mp start
      have first : unit = mark := by simpa using (List.cons_prefix_cons.mp continued).1
      exact absurd (by simp [first]) outside

/-- A mark that the needle does not have cuts the replacement in two. -/
theorem replaceFrom_mark {back : Units} (outside : mark ∉ needle) (inhabited : needle ≠ [])
    (front : Units) :
    ∀ skip ≤ front.length,
      (literalPattern needle replacement).replaceFrom skip (front ++ mark :: back) =
        (literalPattern needle replacement).replaceFrom skip front
          ++ mark :: (literalPattern needle replacement).replaceAll back := by
  induction front with
  | nil =>
    intro skip within
    obtain rfl : skip = 0 := by simpa using within
    have apart : ¬ needle <+: mark :: back := by
      intro start
      have nothing := prefix_before_mark [] outside start
      exact inhabited (List.prefix_nil.mp nothing)
    simp [Pattern.replaceFrom, Pattern.replaceAll, literalPattern_none apart]
  | cons unit rest ih =>
    intro skip within
    cases skip with
    | succ skip => exact ih skip (by simpa using within)
    | zero =>
      by_cases start : needle <+: unit :: rest
      · have longer : needle <+: unit :: (rest ++ mark :: back) :=
          start.trans (List.prefix_append (unit :: rest) (mark :: back))
        have shorter : needle.length - 1 ≤ rest.length := by
          have := start.length_le
          simp only [List.length_cons] at this
          omega
        simp only [List.cons_append, Pattern.replaceFrom, literalPattern_start longer,
          literalPattern_start start, ih _ shorter, List.append_assoc]
      · have apart : ¬ needle <+: unit :: (rest ++ mark :: back) := by
          intro longer
          exact start (prefix_before_mark (unit :: rest) outside longer)
        simp only [List.cons_append, Pattern.replaceFrom, literalPattern_none apart,
          literalPattern_none start, ih 0 (Nat.zero_le _)]

theorem replaceAll_mark (replacement front back : Units) (outside : mark ∉ needle)
    (inhabited : needle ≠ []) :
    (literalPattern needle replacement).replaceAll (front ++ mark :: back) =
      (literalPattern needle replacement).replaceAll front
        ++ mark :: (literalPattern needle replacement).replaceAll back :=
  replaceFrom_mark outside inhabited front 0 (Nat.zero_le _)

end Literal

end Klura
