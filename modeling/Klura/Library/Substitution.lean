import Klura.Library.Replacement

/-! Replacing every match of a string by a text whose dollar signs stand for parts of the string. -/

namespace Klura

/-- The text that a replacement stands for: a pair of dollar signs for one, and a dollar sign with
an ampersand, a grave accent or an apostrophe for the match, what is before it and what is behind
it; any other dollar sign is one. -/
def getSubstitution (matched before behind : Units) : Units → Units
  | 36 :: 36 :: rest => 36 :: getSubstitution matched before behind rest
  | 36 :: 38 :: rest => matched ++ getSubstitution matched before behind rest
  | 36 :: 96 :: rest => before ++ getSubstitution matched before behind rest
  | 36 :: 39 :: rest => behind ++ getSubstitution matched before behind rest
  | unit :: rest => unit :: getSubstitution matched before behind rest
  | [] => []

/-- A string with the matches of a needle replaced, once what is left of a match is skipped. -/
def substituteFrom (needle replacement : Units) : Units → Nat → Units → Units
  | _, _, [] => []
  | before, skip + 1, unit :: rest =>
    substituteFrom needle replacement (before ++ [unit]) skip rest
  | before, 0, unit :: rest =>
    if needle.isPrefixOf (unit :: rest) then
      getSubstitution needle before ((unit :: rest).drop needle.length) replacement
        ++ substituteFrom needle replacement (before ++ [unit]) (needle.length - 1) rest
    else unit :: substituteFrom needle replacement (before ++ [unit]) 0 rest

/-- A string with every match of a needle replaced. -/
def substituteAll (text needle replacement : Units) : Units :=
  substituteFrom needle replacement [] 0 text

attribute [local simp] getSubstitution substituteFrom

variable {replacement : Units}

/-- A replacement without a dollar sign stands for itself. -/
theorem getSubstitution_plain (matched before behind : Units) (plain : (36 : UInt16) ∉ replacement) :
    getSubstitution matched before behind replacement = replacement := by
  induction replacement with
  | nil => rfl
  | cons unit rest ih =>
    have first : unit ≠ 36 := fun same => plain (by simp [same])
    have later : (36 : UInt16) ∉ rest := fun member => plain (List.mem_cons_of_mem _ member)
    -- No case for a dollar sign applies.
    unfold getSubstitution
    split <;> simp_all

variable {needle : Units}

/-- A replacement without a dollar sign replaces as a text without meaning does. -/
theorem substituteFrom_plain (plain : (36 : UInt16) ∉ replacement) (text : Units) :
    ∀ before skip, substituteFrom needle replacement before skip text =
      (literalPattern needle replacement).replaceFrom skip text := by
  induction text with
  | nil =>
    intro before skip
    cases skip <;> rfl
  | cons unit rest ih =>
    intro before skip
    cases skip with
    | succ skip => exact ih (before ++ [unit]) skip
    | zero =>
      simp only [substituteFrom, Pattern.replaceFrom, literalPattern]
      split
      · simp only [getSubstitution_plain _ _ _ plain, ih]
      · simp only [ih]

theorem substituteAll_plain (text : Units) (plain : (36 : UInt16) ∉ replacement) :
    substituteAll text needle replacement = (literalPattern needle replacement).replaceAll text :=
  substituteFrom_plain plain text [] 0

variable {text : Units}

/-- A string without the needle stays as it is, whatever the replacement stands for. -/
theorem substituteAll_absent (replacement : Units) (absent : includes text needle = false) :
    substituteAll text needle replacement = text := by
  have apart : ∀ back, back <:+ text → needle.isPrefixOf back = false := by
    intro back suffix
    rw [← Bool.not_eq_true, includes_iff] at absent
    rw [← Bool.not_eq_true, List.isPrefixOf_iff_prefix]
    exact fun start => absent (start.isInfix.trans suffix.isInfix)
  -- The induction follows the string, at no end of which the needle starts.
  have general : ∀ back, back <:+ text → ∀ before,
      substituteFrom needle replacement before 0 back = back := by
    intro back
    induction back with
    | nil => intro _ before; rfl
    | cons unit rest ih =>
      intro suffix before
      have later := ih ((List.suffix_cons unit rest).trans suffix) (before ++ [unit])
      simp only [substituteFrom, apart _ suffix, Bool.false_eq_true, if_false, later]
  exact general text (List.suffix_refl text) []

/-- The part of a string before the first match of a needle. -/
def beforeFirst (needle : Units) : Units → Option Units
  | [] => if needle = [] then some [] else none
  | unit :: rest =>
    if needle.isPrefixOf (unit :: rest) then some []
    else (beforeFirst needle rest).map fun front => unit :: front

/-- A string that includes a needle has a part before the first one. -/
theorem beforeFirst_of_includes (inside : includes text needle = true) :
    ∃ front, beforeFirst needle text = some front := by
  induction text with
  | nil =>
    obtain ⟨front, back, whole⟩ := includes_iff.mp inside
    simp only [List.append_eq_nil_iff] at whole
    exact ⟨[], by simp [beforeFirst, whole.1.2]⟩
  | cons unit rest ih =>
    by_cases start : needle.isPrefixOf (unit :: rest) = true
    · exact ⟨[], by simp [beforeFirst, start]⟩
    · have later : includes rest needle = true := by
        rw [includes_iff] at inside ⊢
        rcases List.infix_cons_iff.mp inside with here | there
        · exact absurd (List.isPrefixOf_iff_prefix.mpr here) start
        · exact there
      obtain ⟨front, found⟩ := ih later
      exact ⟨unit :: front, by simp [beforeFirst, start, found]⟩

/-- Replacing leaves what is before the first match, and puts the replacement next. -/
theorem replaceAll_beforeFirst {front : Units} (replacement : Units) (inhabited : needle ≠ [])
    (found : beforeFirst needle text = some front) :
    (∃ rest, text = front ++ needle ++ rest) ∧
      ∃ rest, (literalPattern needle replacement).replaceAll text = front ++ replacement ++ rest := by
  induction text generalizing front with
  | nil => simp [beforeFirst, inhabited] at found
  | cons unit rest ih =>
    by_cases start : needle <+: unit :: rest
    · have here : needle.isPrefixOf (unit :: rest) = true := List.isPrefixOf_iff_prefix.mpr start
      simp only [beforeFirst, here, if_true, Option.some.injEq] at found
      subst found
      obtain ⟨behind, whole⟩ := start
      refine ⟨⟨behind, by simp [whole]⟩,
        (literalPattern needle replacement).replaceFrom (needle.length - 1) rest, ?_⟩
      simp only [Pattern.replaceAll, Pattern.replaceFrom,
        literalPattern_start (List.isPrefixOf_iff_prefix.mp here), List.nil_append]
    · have none : needle.isPrefixOf (unit :: rest) = false := by
        rw [← Bool.not_eq_true, List.isPrefixOf_iff_prefix]
        exact start
      simp only [beforeFirst, none, Bool.false_eq_true, if_false, Option.map_eq_some_iff] at found
      obtain ⟨later, at_, rfl⟩ := found
      obtain ⟨⟨behind, whole⟩, rest', replaced⟩ := ih at_
      refine ⟨⟨behind, by simp [whole]⟩, rest', ?_⟩
      simp only [Pattern.replaceAll] at replaced
      simp [Pattern.replaceAll, Pattern.replaceFrom, literalPattern_none start, replaced]

/-- A unit of a string with its matches replaced is one of the string or of the replacement. -/
theorem mem_replaceAll {unit : UInt16}
    (member : unit ∈ (literalPattern needle replacement).replaceAll text) :
    unit ∈ text ∨ unit ∈ replacement := by
  have general : ∀ skip, unit ∈ (literalPattern needle replacement).replaceFrom skip text →
      unit ∈ text ∨ unit ∈ replacement := by
    clear member
    induction text with
    | nil => intro skip member; cases skip <;> simp [Pattern.replaceFrom] at member
    | cons first rest ih =>
      intro skip member
      cases skip with
      | succ skip =>
        exact (ih skip (by simpa [Pattern.replaceFrom] using member)).imp_left
          (List.mem_cons_of_mem _)
      | zero =>
        by_cases start : needle <+: first :: rest
        · simp only [Pattern.replaceFrom, literalPattern_start start, List.mem_append] at member
          rcases member with new | old
          · exact .inr new
          · exact (ih _ old).imp_left (List.mem_cons_of_mem _)
        · simp only [Pattern.replaceFrom, literalPattern_none start, List.mem_cons] at member
          rcases member with same | old
          · exact .inl (by simp [same])
          · exact (ih _ old).imp_left (List.mem_cons_of_mem _)
  exact general 0 member

end Klura
