import Mathlib.Data.List.TakeWhile
import Klura.Library.Replacement

/-! Templates with named places in double braces: filling them in, and making one from a text. -/

namespace Klura

/-- The written form of a name in double braces. -/
def token (name : Units) : Units := 123 :: 123 :: (name ++ [125, 125])

/-- The name in double braces that a string starts with. -/
def tokenName (isName : UInt16 → Bool) : Units → Option Units
  | first :: second :: rest =>
    let name := rest.takeWhile isName
    if first = 123 ∧ second = 123 ∧ name ≠ [] ∧ [125, 125] <+: rest.dropWhile isName
    then some name else none
  | _ => none

/-- The pattern of names in double braces, with the text for each. -/
def tokenPattern (isName : UInt16 → Bool) (fill : Units → Units) : Pattern := fun text =>
  (tokenName isName text).map fun name => (fill name, name.length + 4)

/-- The names in double braces of a string, in order. -/
def tokenNames (isName : UInt16 → Bool) (text : Units) : List Units :=
  text.tails.filterMap (tokenName isName)

/-- A template: the text before its first place, and each place's name with the text behind it. -/
structure Template where
  first : Units
  places : List (Units × Units)
  deriving DecidableEq

namespace Template

/-- A template with a text for each name. -/
def fill (template : Template) (value : Units → Units) : Units :=
  template.first ++ template.places.flatMap fun place => value place.1 ++ place.2

/-- The written form of a template. -/
def text (template : Template) : Units := template.fill token

/-- The texts between a template's places. -/
def literals (template : Template) : List Units :=
  template.first :: template.places.map Prod.snd

/-- The names of a template's places. -/
def names (template : Template) : List Units := template.places.map Prod.fst

/-- Each text between places is a part of the filled template. -/
theorem literal_part (template : Template) (value : Units → Units) {literal : Units}
    (member : literal ∈ template.literals) : literal <:+: template.fill value := by
  rcases List.mem_cons.mp member with rfl | later
  · exact (List.prefix_append _ _).isInfix
  · obtain ⟨place, at_place, rfl⟩ := List.mem_map.mp later
    obtain ⟨before, after, split⟩ := List.append_of_mem at_place
    refine ⟨template.first ++ (before.flatMap fun place => value place.1 ++ place.2)
      ++ value place.1, after.flatMap fun place => value place.1 ++ place.2, ?_⟩
    simp [fill, split]

end Template

section Tokens

variable {isName : UInt16 → Bool}

theorem found_token (fill : Units → Units) {text : Units} :
    (tokenPattern isName fill).found text = false ↔ tokenNames isName text = [] := by
  simp [Pattern.found_eq_false, tokenNames, tokenPattern, List.mem_tails]

/-- A string starts with a name when it starts with the written form of the name. -/
theorem tokenName_iff (closing : isName 125 = false) {text name : Units} :
    tokenName isName text = some name ↔
      name ≠ [] ∧ (∀ unit ∈ name, isName unit = true) ∧ token name <+: text := by
  constructor
  · intro starts
    match text with
    | [] | [_] => simp [tokenName] at starts
    | first :: second :: rest =>
      simp only [tokenName] at starts
      split at starts
      · rename_i shape
        obtain ⟨rfl, rfl, inhabited, closed⟩ := shape
        cases Option.some.inj starts
        obtain ⟨after, closed⟩ := closed
        have whole := List.takeWhile_append_dropWhile (p := isName) (l := rest)
        rw [← closed] at whole
        refine ⟨inhabited, fun unit member => List.mem_takeWhile_imp member, after, ?_⟩
        rw [token, List.cons_append, List.cons_append, List.append_assoc, whole]
      · cases starts
  · intro shape
    obtain ⟨inhabited, valid, rest, rfl⟩ := shape
    have taken : (name ++ 125 :: 125 :: rest).takeWhile isName = name := by
      rw [List.takeWhile_append_of_pos valid]
      simp [closing]
    have left : (name ++ 125 :: 125 :: rest).dropWhile isName = 125 :: 125 :: rest := by
      rw [List.dropWhile_append_of_pos valid]
      simp [closing]
    simp [token, tokenName, taken, left, inhabited]

/-- A string has no names when no part of it is the written form of one. -/
theorem tokenNames_eq_nil (closing : isName 125 = false) {text : Units} :
    tokenNames isName text = [] ↔
      ∀ name, name ≠ [] → (∀ unit ∈ name, isName unit = true) → ¬ token name <:+: text := by
  rw [tokenNames, List.filterMap_eq_nil_iff]
  constructor
  · intro clear name inhabited valid occurs
    obtain ⟨front, back, whole⟩ := occurs
    have suffix : token name ++ back <:+ text := ⟨front, by simpa using whole⟩
    have starts := (tokenName_iff closing).mpr ⟨inhabited, valid, List.prefix_append _ back⟩
    rw [clear _ ((List.mem_tails _ _).mpr suffix)] at starts
    cases starts
  · intro clear back suffix
    cases starts : tokenName isName back with
    | none => rfl
    | some name =>
      obtain ⟨inhabited, valid, start⟩ := (tokenName_iff closing).mp starts
      have inside := start.isInfix.trans ((List.mem_tails _ _).mp suffix).isInfix
      exact absurd inside (clear name inhabited valid)

theorem tokenNames_part (closing : isName 125 = false) {part text : Units}
    (inside : part <:+: text) (clear : tokenNames isName text = []) :
    tokenNames isName part = [] := by
  rw [tokenNames_eq_nil closing] at clear ⊢
  intro name inhabited valid occurs
  exact clear name inhabited valid (occurs.trans inside)

/-- A string without a name gets none from the braces that follow it. -/
theorem tokenName_before (opening : isName 123 = false) (closing : isName 125 = false)
    {front : Units} (rest : Units) (inhabited : front ≠ [])
    (clear : tokenName isName front = none) :
    tokenName isName (front ++ 123 :: 123 :: rest) = none := by
  cases starts : tokenName isName (front ++ 123 :: 123 :: rest) with
  | none => rfl
  | some name =>
    obtain ⟨named, valid, start⟩ := (tokenName_iff closing).mp starts
    rcases List.prefix_or_prefix_of_prefix start (List.prefix_append front _) with inside | whole
    · rw [(tokenName_iff closing).mpr ⟨named, valid, inside⟩] at clear
      cases clear
    · -- Otherwise an opening brace would stand behind the opening of the name.
      obtain ⟨after, split⟩ := whole
      rw [← split] at start
      have continued := (List.prefix_append_right_inj front).mp start
      have outside : (123 : UInt16) ∉ name ++ [125, 125] := by
        intro member
        rcases List.mem_append.mp member with inside | inside
        · rw [valid _ inside] at opening
          cases opening
        · simp at inside
      match front, inhabited with
      | [first], _ =>
        cases name with
        | nil => exact absurd rfl named
        | cons unit others =>
          simp only [token, List.cons_append, List.nil_append, List.cons.injEq] at split
          rw [split.2] at continued
          have second := (List.cons_prefix_cons.mp (List.cons_prefix_cons.mp continued).2).1
          exact absurd (by simp [second]) outside
      | first :: second :: others, _ =>
        simp only [token, List.cons_append, List.cons.injEq] at split
        cases after with
        | nil =>
          rw [List.append_nil] at split
          have same : first :: second :: others = token name := by
            rw [split.1, split.2.1, split.2.2, token]
          rw [same, (tokenName_iff closing).mpr ⟨named, valid, List.prefix_refl _⟩] at clear
          cases clear
        | cons unit more =>
          have opened := (List.cons_prefix_cons.mp continued).1
          exact absurd (by rw [← split.2.2, opened]; simp) outside

/-- A name that the text before it does not have is filled in where it stands. -/
theorem replaceAll_token (opening : isName 123 = false) (closing : isName 125 = false)
    (fill : Units → Units) {name : Units} (inhabited : name ≠ [])
    (valid : ∀ unit ∈ name, isName unit = true) (rest : Units) :
    ∀ front, tokenNames isName front = [] →
      (tokenPattern isName fill).replaceAll (front ++ (token name ++ rest)) =
        front ++ (fill name ++ (tokenPattern isName fill).replaceAll rest) := by
  intro front
  induction front with
  | nil =>
    intro _
    have starts : tokenPattern isName fill (token name ++ rest) =
        some (fill name, name.length + 4) := by
      rw [tokenPattern, (tokenName_iff closing).mpr ⟨inhabited, valid, List.prefix_append _ _⟩]
      rfl
    simp only [token, List.cons_append, List.append_assoc, List.nil_append] at starts
    have skipped : ∀ before back : Units, (tokenPattern isName fill).replaceFrom before.length
        (before ++ back) = (tokenPattern isName fill).replaceFrom 0 back := by
      intro before back
      induction before with
      | nil => rfl
      | cons unit others ih => exact ih
    have behind := skipped (123 :: (name ++ [125, 125])) rest
    simp only [List.cons_append, List.append_assoc, List.length_cons, List.length_append,
      List.length_nil, List.nil_append] at behind
    simp only [Pattern.replaceAll, token, List.nil_append, List.cons_append, List.append_assoc,
      Pattern.replaceFrom, starts]
    have left : name.length + 4 - 1 = name.length + (0 + 1 + 1) + 1 := by omega
    rw [left, behind]
  | cons unit others ih =>
    intro clear
    have here : tokenName isName (unit :: others) = none := by
      have every := (found_token fill).mpr clear
      have none_here := Pattern.found_eq_false.mp every _ (List.suffix_refl _)
      simpa [tokenPattern] using none_here
    have apart : tokenPattern isName fill (unit :: others ++ (token name ++ rest)) = none := by
      have before := tokenName_before opening closing (name ++ ([125, 125] ++ rest))
        (List.cons_ne_nil unit others) here
      simpa [tokenPattern, token] using before
    have later := ih (tokenNames_part closing (List.suffix_cons unit others).isInfix clear)
    simp only [token, List.cons_append, List.append_assoc] at apart later ⊢
    simp only [Pattern.replaceAll] at later
    simp only [Pattern.replaceAll, Pattern.replaceFrom, apart, later]

/-- Filling in the written form of a template fills in the template. -/
theorem Template.replaceAll_text (opening : isName 123 = false) (closing : isName 125 = false)
    {fill : Units → Units} (template : Template)
    (valid : ∀ name ∈ template.names, name ≠ [] ∧ ∀ unit ∈ name, isName unit = true)
    (clear : ∀ literal ∈ template.literals, tokenNames isName literal = []) :
    (tokenPattern isName fill).replaceAll template.text = template.fill fill := by
  obtain ⟨first, places⟩ := template
  induction places generalizing first with
  | nil =>
    have kept := Pattern.replaceAll_clear
      ((found_token fill).mpr (clear first List.mem_cons_self))
    simpa [Template.text, Template.fill] using kept
  | cons place others ih =>
    obtain ⟨inhabited, named⟩ := valid place.1 List.mem_cons_self
    have later := ih place.2 (fun name member => valid name (List.mem_cons_of_mem _ member))
      (fun literal member => clear literal (List.mem_cons_of_mem _ member))
    have start := replaceAll_token opening closing fill inhabited named
      (Template.text ⟨place.2, others⟩) first (clear first List.mem_cons_self)
    simp only [Template.text, Template.fill, List.flatMap_cons, List.append_assoc] at start later ⊢
    rw [start, later]

end Tokens

section Rewriting

variable {name value : Units}

/-- Where a value is replaced by a name, the text becomes the written form of a template. -/
theorem replaceFrom_template (name : Units) (inhabited : value ≠ []) (text : Units) :
    ∀ skip ≤ text.length, ∃ template : Template,
      (literalPattern value (token name)).replaceFrom skip text = template.text ∧
        (∀ fill, fill name = value → template.fill fill = text.drop skip) ∧
          ∀ other ∈ template.names, other = name := by
  induction text with
  | nil =>
    intro skip _
    exact ⟨⟨[], []⟩, rfl, by simp [Template.fill], by simp [Template.names]⟩
  | cons unit rest ih =>
    intro skip within
    cases skip with
    | succ skip => exact ih skip (by simpa using within)
    | zero =>
      by_cases start : value <+: unit :: rest
      · have shorter : value.length - 1 ≤ rest.length := by
          have := start.length_le
          simp only [List.length_cons] at this
          omega
        obtain ⟨template, written, filled, named⟩ := ih _ shorter
        refine ⟨⟨[], (name, template.first) :: template.places⟩, ?_, ?_, ?_⟩
        · simp only [Pattern.replaceFrom, literalPattern_start start, written]
          simp [Template.text, Template.fill]
        · intro fill reads
          have behind := filled fill reads
          obtain ⟨after, whole⟩ := start
          have cut : rest.drop (value.length - 1) = after := by
            cases value with
            | nil => exact absurd rfl inhabited
            | cons first others =>
              cases whole
              simp
          rw [cut] at behind
          simp only [Template.fill, List.flatMap_cons, List.nil_append, reads, List.append_assoc,
            List.drop_zero] at behind ⊢
          rw [behind, whole]
        · intro other member
          rcases List.mem_cons.mp member with same | later
          · exact same
          · exact named other later
      · obtain ⟨template, written, filled, named⟩ := ih 0 (Nat.zero_le _)
        refine ⟨⟨unit :: template.first, template.places⟩, ?_, ?_, named⟩
        · simp only [Pattern.replaceFrom, literalPattern_none start, written]
          simp [Template.text, Template.fill]
        · intro fill reads
          have behind := filled fill reads
          simp only [Template.fill, List.drop_zero, List.cons_append] at behind ⊢
          rw [behind]

/-- A name that a value is no part of keeps its written form when the value is replaced. -/
theorem replaceAll_around (replacement : Units) (opening : 123 ∉ value) (closing : 125 ∉ value)
    (inhabited : value ≠ []) {other : Units} (apart : includes other value = false)
    (front back : Units) :
    (literalPattern value replacement).replaceAll (front ++ (token other ++ back)) =
      (literalPattern value replacement).replaceAll front ++ (token other
        ++ (literalPattern value replacement).replaceAll back) := by
  have cut := fun before after : Units =>
    replaceAll_mark replacement before after opening inhabited
  have ends := fun before after : Units =>
    replaceAll_mark replacement before after closing inhabited
  have nothing : (literalPattern value replacement).replaceAll [] = [] := rfl
  have second := cut [] (other ++ 125 :: 125 :: back)
  have last := ends [] back
  simp only [List.nil_append, nothing] at second last
  simp only [token, List.cons_append, List.append_assoc, List.nil_append]
  rw [cut, second, ends, replaceAll_absent apart, last]

/-- Replacing a value by a name turns a template into one that is filled in to the same text. -/
theorem Template.replaceAll_value (name : Units) (opening : 123 ∉ value) (closing : 125 ∉ value)
    (inhabited : value ≠ []) (template : Template)
    (apart : ∀ other ∈ template.names, includes other value = false) :
    ∃ next : Template, (literalPattern value (token name)).replaceAll template.text = next.text ∧
      (∀ fill, fill name = value → next.fill fill = template.fill fill) ∧
        ∀ other ∈ next.names, other = name ∨ other ∈ template.names := by
  obtain ⟨first, places⟩ := template
  induction places generalizing first with
  | nil =>
    obtain ⟨next, written, filled, named⟩ :=
      replaceFrom_template name inhabited first 0 (Nat.zero_le _)
    refine ⟨next, ?_, ?_, fun other member => Or.inl (named other member)⟩
    · simpa [Template.text, Template.fill, Pattern.replaceAll] using written
    · intro fill reads
      simpa [Template.fill] using filled fill reads
  | cons place others ih =>
    obtain ⟨later, laterWritten, laterFilled, laterNamed⟩ :=
      ih place.2 fun other member => apart other (List.mem_cons_of_mem _ member)
    obtain ⟨next, written, filled, named⟩ :=
      replaceFrom_template name inhabited first 0 (Nat.zero_le _)
    refine ⟨⟨next.first, next.places ++ (place.1, later.first) :: later.places⟩, ?_, ?_, ?_⟩
    · have around := replaceAll_around (token name) opening closing inhabited
        (apart place.1 List.mem_cons_self) first (Template.text ⟨place.2, others⟩)
      have front : (literalPattern value (token name)).replaceAll first = next.text := written
      simp only [Template.text, Template.fill, List.flatMap_cons, List.flatMap_append,
        List.append_assoc] at around laterWritten front ⊢
      rw [around, laterWritten, front]
      simp only [List.append_assoc]
    · intro fill reads
      have front := filled fill reads
      have behind := laterFilled fill reads
      simp only [Template.fill, List.flatMap_cons, List.flatMap_append, List.append_assoc,
        List.drop_zero] at front behind ⊢
      rw [← behind, ← front]
      simp only [List.append_assoc]
    · intro other member
      simp only [Template.names, List.map_append, List.map_cons, List.mem_append,
        List.mem_cons] at member ⊢
      rcases member with before | same | after
      · exact Or.inl (named other before)
      · exact Or.inr (Or.inl same)
      · exact (laterNamed other after).imp_right Or.inr

end Rewriting

end Klura
