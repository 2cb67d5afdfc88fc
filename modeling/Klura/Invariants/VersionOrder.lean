import Klura.Contracts.Versions
import Klura.Library.Precedence
import Klura.Library.Utf8
import Mathlib.Data.List.Induction
import Mathlib.Data.List.TakeWhile

/-! Versions are ordered as semantic versions are, but for the numbers that a double rounds. -/

namespace Klura

open StrictJson

/-- What a part of a prerelease is compared as. -/
def identifierOf (part : Units) : Identifier :=
  if part.all isDigit then toLex (.inl (StrictJson.digitsValue part))
  else toLex (.inr (part.map UInt16.toNat))

/-- Where semantic versioning puts a version. -/
def precedenceOf (version : Units) : Precedence :=
  let parsed := parseVersion version
  toLex (parsed.core.map StrictJson.digitsValue,
    if parsed.prerelease = [] then ⊤ else ((parsed.prerelease.map identifierOf : List Identifier)))

/-- Whether a version parses. -/
def Accepted (version : Units) : Prop :=
  ∀ field, parsePackageVersion (.string version) field = .ok version

/-- Whether two parts are numerals that are read as one number. -/
def ReadAsOne (left right : Units) : Prop :=
  left.all isDigit = true ∧ right.all isDigit = true ∧
    Double.nearest false (StrictJson.digitsValue left) =
      Double.nearest false (StrictJson.digitsValue right)

/-- Two versions first differ in two of their parts. -/
def FirstDiffer (version other left right : Units) : Prop :=
  FirstApart (parseVersion version).core (parseVersion other).core left right ∨
    (parseVersion version).core = (parseVersion other).core ∧
      FirstApart (parseVersion version).prerelease (parseVersion other).prerelease left right

/-- The parts in which two versions first differ are not read as one number. -/
def Told (version other : Units) : Prop :=
  ∀ left right, FirstDiffer version other left right → ¬ ReadAsOne left right

/-- Two versions are compared as semantic versioning compares them. -/
def Agrees (version other : Units) : Prop :=
  comparePackageVersions version other = orderSign (precedenceOf version) (precedenceOf other)

/-! Numerals are told apart by their values. -/

theorem digitsValue_snoc (text : Units) (unit : UInt16) :
    StrictJson.digitsValue (text ++ [unit]) =
      10 * StrictJson.digitsValue text + (unit.toNat - 48) := by
  simp [StrictJson.digitsValue]

variable {text : Units}

theorem digitsValue_lt (digits : text.all isDigit = true) :
    StrictJson.digitsValue text < 10 ^ text.length := by
  induction text using List.reverseRecOn with
  | nil => exact Nat.one_pos
  | append_singleton text unit ih =>
    rw [List.all_append, Bool.and_eq_true] at digits
    have less := ih digits.1
    have digit : 48 ≤ unit.toNat ∧ unit.toNat ≤ 57 := by simpa [isDigit] using digits.2
    rw [digitsValue_snoc, List.length_append, List.length_singleton, pow_succ]
    omega

theorem le_digitsValue {unit : UInt16} {rest : Units} (digits : (unit :: rest).all isDigit = true)
    (front : unit ≠ 48) : 10 ^ rest.length ≤ StrictJson.digitsValue (unit :: rest) := by
  induction rest using List.reverseRecOn with
  | nil =>
    have digit : 48 ≤ unit.toNat ∧ unit.toNat ≤ 57 := by simpa [isDigit] using digits
    have differs : unit.toNat ≠ 48 := fun same => front (UInt16.toNat_inj.mp same)
    have value : StrictJson.digitsValue [unit] = unit.toNat - 48 := by simp [StrictJson.digitsValue]
    rw [value, List.length_nil, pow_zero]
    omega
  | append_singleton rest last ih =>
    rw [← List.cons_append, List.all_append, Bool.and_eq_true] at digits
    have more := ih digits.1
    rw [← List.cons_append, digitsValue_snoc, List.length_append, List.length_singleton, pow_succ]
    omega

variable {left right : Units}

theorem digitsValue_inj (digits : left.all isDigit = true) (digits' : right.all isDigit = true)
    (long : left.length = right.length)
    (same : StrictJson.digitsValue left = StrictJson.digitsValue right) : left = right := by
  induction left using List.reverseRecOn generalizing right with
  | nil => exact (List.length_eq_zero_iff.mp long.symm).symm
  | append_singleton left unit ih =>
    rcases List.eq_nil_or_concat' right with rfl | ⟨right, last, rfl⟩
    · simp at long
    · rw [List.all_append, Bool.and_eq_true] at digits digits'
      have digit : 48 ≤ unit.toNat ∧ unit.toNat ≤ 57 := by simpa [isDigit] using digits.2
      have digit' : 48 ≤ last.toNat ∧ last.toNat ≤ 57 := by simpa [isDigit] using digits'.2
      rw [digitsValue_snoc, digitsValue_snoc] at same
      rw [ih digits.1 digits'.1 (by simpa using long) (by omega),
        UInt16.toNat_inj.mp (show unit.toNat = last.toNat by omega)]

theorem isNumeral_digits (numeral : isNumeral text = true) :
    text.all isDigit = true := by
  rcases Bool.or_eq_true_iff.mp numeral with zero | shaped
  · rw [beq_iff_eq.mp zero]
    decide
  · exact (Bool.and_eq_true_iff.mp shaped).2

theorem isNumeral_cases (numeral : isNumeral text = true) :
    text = [48] ∨ ∃ unit rest, text = unit :: rest ∧ unit ≠ 48 := by
  unfold isNumeral at numeral
  cases text with
  | nil => simp at numeral
  | cons unit rest =>
    by_cases zero : unit = 48
    · simp [zero] at numeral
      simp [zero, numeral]
    · exact .inr ⟨unit, rest, rfl, zero⟩

theorem isNumeral_inj (numeral : isNumeral left = true) (numeral' : isNumeral right = true)
    (same : StrictJson.digitsValue left = StrictJson.digitsValue right) : left = right := by
  have digits := isNumeral_digits numeral
  have digits' := isNumeral_digits numeral'
  have less := digitsValue_lt digits
  have less' := digitsValue_lt digits'
  have zero : StrictJson.digitsValue [48] = 0 := by decide
  rcases isNumeral_cases numeral with rfl | ⟨unit, rest, rfl, front⟩ <;>
    rcases isNumeral_cases numeral' with rfl | ⟨unit', rest', rfl, front'⟩
  · rfl
  · have more := le_digitsValue digits' front'
    have positive := @Nat.pow_pos 10 rest'.length (by decide)
    omega
  · have more := le_digitsValue digits front
    have positive := @Nat.pow_pos 10 rest.length (by decide)
    omega
  · have more := le_digitsValue digits front
    have more' := le_digitsValue digits' front'
    -- Both values lie between the same powers of ten, so the rows are as long.
    have first := (Nat.pow_lt_pow_iff_right (by decide)).mp (more.trans_lt (same ▸ less'))
    have second := (Nat.pow_lt_pow_iff_right (by decide)).mp (more'.trans_lt (same ▸ less))
    simp only [List.length_cons] at first second
    exact digitsValue_inj digits digits' (by simp only [List.length_cons]; omega) same

/-! Rounding keeps the order of numerals. -/

theorem numeralUnits_eq (digits : text.all isDigit = true) (short : text.length ≤ 64) :
    ∃ magnitude : Magnitude,
      Double.nearest false (StrictJson.digitsValue text) = .finite false magnitude ∧
      numeralUnits text = magnitude.units ∧
      magnitude.units = roundBits (StrictJson.digitsValue text * (unitsPerOne : ℚ)) := by
  have less : StrictJson.digitsValue text * unitsPerOne ≤ 2 ^ (53 + 1300) := by
    have value := digitsValue_lt digits
    have power : 10 ^ text.length ≤ 10 ^ 64 := Nat.pow_le_pow_right (by decide) short
    have wide : 10 ^ 64 * unitsPerOne ≤ 2 ^ (53 + 1300) := by
      rw [unitsPerOne, show 53 + 1300 = 279 + 1074 from rfl, pow_add]
      exact Nat.mul_le_mul_right _ (show (10 ^ 64 : Nat) ≤ 2 ^ 279 by decide +kernel)
    exact (Nat.mul_le_mul_right _ (by omega)).trans wide
  have kept : 2 ^ lastBit (2 ^ (53 + 1300)) ∣ 2 ^ (53 + 1300) :=
    Nat.pow_dvd_pow 2 ((lastBit_le (Nat.pow_lt_pow_right (by decide) (by decide))).trans
      (show 1301 ≤ 53 + 1300 by decide))
  have rounds : roundBits ((2 ^ (53 + 1300) : Nat) : ℚ) = 2 ^ (53 + 1300) := by
    apply roundBits_near kept
    · rw [sub_self, abs_zero]
      positivity
    · intro _
      rw [sub_self]
      positivity
  have bounded := roundBits_mono (show ((StrictJson.digitsValue text * unitsPerOne : Nat) : ℚ) ≤
    (2 ^ (53 + 1300) : Nat) by exact_mod_cast less)
  rw [rounds, Nat.cast_mul] at bounded
  have finite := bounded.trans_lt (Nat.pow_lt_pow_right (show 1 < 2 by decide)
    (show 53 + 1300 < 2098 by decide))
  obtain ⟨magnitude, read, units⟩ := nearest_finite false finite
  exact ⟨magnitude, read, congrArg finiteUnits read, units⟩

theorem numeralUnits_mono (digits : left.all isDigit = true) (digits' : right.all isDigit = true)
    (short : left.length ≤ 64) (short' : right.length ≤ 64)
    (order : StrictJson.digitsValue left ≤ StrictJson.digitsValue right) :
    numeralUnits left ≤ numeralUnits right := by
  obtain ⟨magnitude, -, units, value⟩ := numeralUnits_eq digits short
  obtain ⟨magnitude', -, units', value'⟩ := numeralUnits_eq digits' short'
  rw [units, units', value, value']
  exact roundBits_mono (mul_le_mul_of_nonneg_right (Nat.cast_le.mpr order) (Nat.cast_nonneg _))

theorem numeralUnits_same (digits : left.all isDigit = true) (digits' : right.all isDigit = true)
    (short : left.length ≤ 64) (short' : right.length ≤ 64) :
    numeralUnits left = numeralUnits right ↔ ReadAsOne left right := by
  obtain ⟨⟨value, bounded, kept⟩, finite, units, -⟩ := numeralUnits_eq digits short
  obtain ⟨⟨value', bounded', kept'⟩, finite', units', -⟩ := numeralUnits_eq digits' short'
  rw [units, units', ReadAsOne, finite, finite']
  constructor
  · intro same
    obtain rfl : value = value' := same
    exact ⟨digits, digits', rfl⟩
  · rintro ⟨-, -, same⟩
    exact congrArg Magnitude.units (Double.finite.inj same).2

theorem numeralUnits_lt (digits : left.all isDigit = true) (digits' : right.all isDigit = true)
    (short : left.length ≤ 64) (short' : right.length ≤ 64) (apart : ¬ ReadAsOne left right) :
    numeralUnits left < numeralUnits right ↔
      StrictJson.digitsValue left < StrictJson.digitsValue right := by
  rw [← numeralUnits_same digits digits' short short'] at apart
  constructor
  · intro less
    by_contra order
    have more := numeralUnits_mono digits' digits short' short (Nat.le_of_not_lt order)
    omega
  · intro less
    have order := numeralUnits_mono digits digits' short short' less.le
    omega

/-! Comparisons that are told apart are those of semantic versioning. -/

/-- A part of a version, which is no longer than the version. -/
structure Part (text : Units) : Prop where
  form : isPrereleasePart text = true
  short : text.length ≤ 64

theorem Part.numeral {text : Units} (part : Part text) (digits : text.all isDigit = true) :
    isNumeral text = true := by
  rcases Bool.or_eq_true_iff.mp part.form with numeral | word
  · exact numeral
  · obtain ⟨unit, member, odd⟩ := List.any_eq_true.mp (Bool.and_eq_true_iff.mp word).2
    have digit := List.all_eq_true.mp digits unit member
    simp [digit] at odd

theorem part_of_numeral (numeral : isNumeral text = true) (short : text.length ≤ 64) : Part text :=
  ⟨by simp [isPrereleasePart, numeral], short⟩

theorem identifierOf_inj (part : Part left) (part' : Part right) :
    identifierOf left = identifierOf right ↔ left = right := by
  refine ⟨fun same => ?_, congrArg _⟩
  unfold identifierOf at same
  by_cases digits : left.all isDigit = true <;> by_cases digits' : right.all isDigit = true
  · rw [if_pos digits, if_pos digits'] at same
    exact isNumeral_inj (part.numeral digits) (part'.numeral digits')
      (Sum.inl.inj (toLex.injective same))
  · rw [if_pos digits, if_neg digits'] at same
    exact nomatch toLex.injective same
  · rw [if_neg digits, if_pos digits'] at same
    exact nomatch toLex.injective same
  · rw [if_neg digits, if_neg digits'] at same
    exact List.map_injective_iff.mpr (fun _ _ => UInt16.toNat_inj.mp)
      (Sum.inr.inj (toLex.injective same))

theorem comparePart_sign (part : Part left) (part' : Part right) (differ : left ≠ right)
    (apart : ¬ ReadAsOne left right) :
    comparePart left right = orderSign (identifierOf left) (identifierOf right) := by
  have other := mt (identifierOf_inj part part').mp differ
  have sign : orderSign (identifierOf left) (identifierOf right) =
      if identifierOf left < identifierOf right then -1 else 1 := by
    unfold orderSign
    rcases lt_or_gt_of_ne other with less | more
    · rw [if_pos less, if_pos less]
    · rw [if_neg more.not_gt, if_neg more.not_gt, if_pos more]
  rw [sign]
  unfold comparePart identifierOf
  cases digits : left.all isDigit <;> cases digits' : right.all isDigit
  · simp
  · simp
  · simp
  · simp [numeralUnits_lt digits digits' part.short part'.short apart]

variable {lefts rights : List Units}

theorem comparePrereleases_sign (parts : ∀ part ∈ lefts, Part part)
    (parts' : ∀ part ∈ rights, Part part)
    (told : ∀ left right, FirstApart lefts rights left right → ¬ ReadAsOne left right) :
    comparePrereleases lefts rights =
      orderSign (lefts.map identifierOf) (rights.map identifierOf) := by
  induction lefts generalizing rights with
  | nil =>
    cases rights with
    | nil => simp [comparePrereleases]
    | cons right rights => simp [comparePrereleases, orderSign]
  | cons left lefts ih =>
    cases rights with
    | nil => simp [comparePrereleases, orderSign]
    | cons right rights =>
      have part := parts left List.mem_cons_self
      have part' := parts' right List.mem_cons_self
      rw [comparePrereleases, List.map_cons, List.map_cons, orderSign_cons]
      simp only [identifierOf_inj part part']
      by_cases same : left = right
      · subst same
        rw [if_pos rfl, if_pos rfl]
        exact ih (fun other member => parts other (List.mem_cons_of_mem _ member))
          (fun other member => parts' other (List.mem_cons_of_mem _ member))
          fun left right first => told left right (.later first)
      · rw [if_neg same, if_neg same]
        exact comparePart_sign part part' same (told left right (.here same))

/-- The numbers of versions are compared as they should be, when the first that differ are told apart. -/
theorem compareCores_sign (long : lefts.length = rights.length)
    (parts : ∀ part ∈ lefts, isNumeral part = true ∧ part.length ≤ 64)
    (parts' : ∀ part ∈ rights, isNumeral part = true ∧ part.length ≤ 64)
    (told : ∀ left right, FirstApart lefts rights left right → ¬ ReadAsOne left right) :
    compareCores lefts rights = if lefts = rights then none else
      some (orderSign (lefts.map StrictJson.digitsValue) (rights.map StrictJson.digitsValue)) := by
  induction lefts generalizing rights with
  | nil =>
    rw [List.length_eq_zero_iff.mp long.symm]
    rfl
  | cons left lefts ih =>
    cases rights with
    | nil => simp at long
    | cons right rights =>
      obtain ⟨numeral, short⟩ := parts left List.mem_cons_self
      obtain ⟨numeral', short'⟩ := parts' right List.mem_cons_self
      have digits := isNumeral_digits numeral
      have digits' := isNumeral_digits numeral'
      rw [compareCores, List.map_cons, List.map_cons, orderSign_cons]
      by_cases same : left = right
      · subst same
        rw [if_pos rfl, if_pos rfl, ih (Nat.succ.inj long)
          (fun other member => parts other (List.mem_cons_of_mem _ member))
          (fun other member => parts' other (List.mem_cons_of_mem _ member))
          fun left right first => told left right (.later first)]
        simp only [List.cons.injEq, true_and]
      · have apart := told left right (.here same)
        have value := mt (isNumeral_inj numeral numeral') same
        rw [if_neg (mt (numeralUnits_same digits digits' short short').mp apart), if_neg value,
          if_neg fun both => same (List.cons.inj both).1]
        simp only [numeralUnits_lt digits digits' short short' apart, orderSign]
        split_ifs <;> first | rfl | omega

/-! What is accepted. -/

theorem length_le_intercalate {part separator : Units} {parts : List Units}
    (member : part ∈ parts) : part.length ≤ (separator.intercalate parts).length := by
  have inside : part ∈ parts.intersperse separator := by
    induction parts with
    | nil => nomatch member
    | cons first rest ih =>
      cases rest with
      | nil => exact member
      | cons second rest =>
        rcases List.mem_cons.mp member with rfl | later
        · exact List.mem_cons_self
        · exact List.mem_cons_of_mem _ (List.mem_cons_of_mem _ (ih later))
  exact (List.sublist_flatten_of_mem inside).length_le

/-- What a version that parses consists of. -/
structure Wellformed (version : Units) : Prop where
  long : (parseVersion version).core.length = 3
  core : ∀ part ∈ (parseVersion version).core, isNumeral part = true ∧ part.length ≤ 64
  prerelease : ∀ part ∈ (parseVersion version).prerelease, Part part
  whole : version = [46].intercalate (parseVersion version).core ++
    if (parseVersion version).prerelease = [] then []
    else 45 :: [46].intercalate (parseVersion version).prerelease

theorem accepted_iff (version : Units) : Accepted version ↔ isPackageVersion version = true ∧
    version.length ≤ 64 ∧ ∀ unit ∈ version, unit.toNat < 0x80 := by
  constructor
  · intro accepted
    obtain ⟨-, form, small, ascii⟩ := parseForm_ok (accepted [])
    rw [Klura.utf8Length_ascii ascii] at small
    exact ⟨form, small, ascii⟩
  · rintro ⟨form, short, ascii⟩ field
    have units : (version.all fun unit => decide (unit.toNat ≤ 0x7F)) = true :=
      List.all_eq_true.mpr fun unit member => decide_eq_true (Nat.le_of_lt_succ (ascii unit member))
    have small : ¬ 64 < utf8Length version := by
      rw [utf8Length_ascii ascii]
      omega
    unfold parsePackageVersion parseForm parseAsciiString StrictJson.parseString
    simp [bind, Except.bind, small, units, form]

variable {version : Units}

/-- A version that parses is well-formed. -/
theorem Accepted.wellformed (accepted : Accepted version) :
    Wellformed version := by
  obtain ⟨form, short, -⟩ := (accepted_iff version).mp accepted
  simp only [isPackageVersion, Bool.and_eq_true, decide_eq_true_eq, List.all_eq_true] at form
  obtain ⟨⟨long, numerals⟩, words⟩ := form
  have core : [46].intercalate (parseVersion version).core = version.takeWhile (· != 45) :=
    List.intercalate_splitOn 46
  have split : version.takeWhile (· != 45) ++ version.dropWhile (· != 45) = version :=
    List.takeWhile_append_dropWhile
  have rest : version.drop (version.takeWhile (· != 45)).length = version.dropWhile (· != 45) :=
    (congrArg _ split.symm).trans List.drop_left
  have whole : version = [46].intercalate (parseVersion version).core ++
      if (parseVersion version).prerelease = [] then []
      else 45 :: [46].intercalate (parseVersion version).prerelease := by
    rw [core]
    cases tail : version.dropWhile (· != 45) with
    | nil =>
      have prerelease : (parseVersion version).prerelease = [] := by
        unfold parseVersion
        dsimp only
        rw [rest, tail]
      rw [prerelease, if_pos rfl, ← tail, split]
    | cons unit prerelease =>
      have hyphen : unit = 45 := by
        have stops := List.head?_dropWhile_not (fun unit : UInt16 => unit != 45) version
        rw [tail] at stops
        simpa using stops
      have words : (parseVersion version).prerelease = prerelease.splitOn 46 := by
        unfold parseVersion
        dsimp only
        rw [rest, tail]
      rw [words, if_neg (List.splitOn_ne_nil 46 prerelease), List.intercalate_splitOn, ← hyphen, ← tail,
        hyphen, split]
  have front := congrArg List.length whole
  rw [List.length_append] at front
  refine ⟨long, fun part member => ⟨numerals part member, ?_⟩, fun part member =>
    ⟨words part member, ?_⟩, whole⟩
  · have inside := @length_le_intercalate _ [46] _ member
    omega
  · have inside := @length_le_intercalate _ [46] _ member
    rw [if_neg (List.ne_nil_of_mem member), List.length_cons] at front
    omega

theorem map_inj_mem {α β : Type} {change : α → β} {lefts rights : List α}
    (inj : ∀ left ∈ lefts, ∀ right ∈ rights, change left = change right → left = right)
    (same : lefts.map change = rights.map change) : lefts = rights := by
  induction lefts generalizing rights with
  | nil => exact (List.map_eq_nil_iff.mp same.symm).symm
  | cons left lefts ih =>
    cases rights with
    | nil => simp at same
    | cons right rights =>
      obtain ⟨first, rest⟩ := List.cons.inj same
      rw [inj left List.mem_cons_self right List.mem_cons_self first,
        ih (fun left member right member' => inj left (List.mem_cons_of_mem _ member) right
          (List.mem_cons_of_mem _ member')) rest]

variable {other : Units}

theorem Wellformed.core_inj (formed : Wellformed version) (formed' : Wellformed other) :
    (parseVersion version).core.map StrictJson.digitsValue =
      (parseVersion other).core.map StrictJson.digitsValue ↔
      (parseVersion version).core = (parseVersion other).core :=
  ⟨map_inj_mem fun left member right member' =>
    isNumeral_inj (formed.core left member).1 (formed'.core right member').1, congrArg _⟩

theorem precedenceOf_inj (formed : Wellformed version) (formed' : Wellformed other) :
    precedenceOf version = precedenceOf other ↔ version = other := by
  refine ⟨fun same => ?_, congrArg _⟩
  obtain ⟨cores, prereleases⟩ := Prod.mk.inj (toLex.injective same)
  have core := (formed.core_inj formed').mp cores
  have prerelease : (parseVersion version).prerelease = (parseVersion other).prerelease := by
    by_cases none : (parseVersion version).prerelease = [] <;>
      by_cases none' : (parseVersion other).prerelease = []
    · rw [none, none']
    · rw [if_pos none, if_neg none'] at prereleases
      exact nomatch prereleases
    · rw [if_neg none, if_pos none'] at prereleases
      exact nomatch prereleases
    · rw [if_neg none, if_neg none'] at prereleases
      exact map_inj_mem (fun left member right member' =>
        (identifierOf_inj (formed.prerelease left member) (formed'.prerelease right member')).mp)
        (WithTop.coe_inj.mp prereleases)
  rw [formed.whole, formed'.whole, core, prerelease]

theorem agrees_of_told (formed : Wellformed version) (formed' : Wellformed other)
    (told : Told version other) : Agrees version other := by
  have cores := compareCores_sign (formed.long.trans formed'.long.symm) formed.core formed'.core
    fun left right first => told left right (.inl first)
  unfold Agrees comparePackageVersions precedenceOf
  rw [orderSign_toLex]
  dsimp only
  rw [cores]
  by_cases same : (parseVersion version).core = (parseVersion other).core
  · have parts := comparePrereleases_sign formed.prerelease formed'.prerelease
      fun left right first => told left right (.inr ⟨same, first⟩)
    rw [if_pos same, if_pos ((formed.core_inj formed').mpr same)]
    dsimp only
    cases first : (parseVersion version).prerelease with
    | nil => cases second : (parseVersion other).prerelease <;> simp [orderSign]
    | cons left lefts =>
      cases second : (parseVersion other).prerelease with
      | nil => simp [orderSign]
      | cons right rights =>
        rw [first, second] at parts
        simpa [orderSign] using parts
  · rw [if_neg same, if_neg (mt (formed.core_inj formed').mp same)]

theorem FirstDiffer.symm (first : FirstDiffer version other left right) :
    FirstDiffer other version right left :=
  first.imp FirstApart.symm fun both => ⟨both.1.symm, both.2.symm⟩

theorem Told.symm (told : Told version other) : Told other version :=
  fun left right first one => told right left first.symm ⟨one.2.1, one.1, one.2.2.symm⟩

/-- What the comparison of two versions should do, both ways round. -/
structure Compared (version other : Units) : Prop where
  agrees : Agrees version other
  zero : comparePackageVersions version other = 0 ↔ version = other
  swap : comparePackageVersions other version = -comparePackageVersions version other

theorem compared_of_told (formed : Wellformed version) (formed' : Wellformed other)
    (told : Told version other) : Compared version other := by
  have agrees := agrees_of_told formed formed' told
  have back := agrees_of_told formed' formed told.symm
  refine ⟨agrees, ?_, ?_⟩
  · rw [agrees, orderSign_eq_zero, precedenceOf_inj formed formed']
  · rw [agrees, back, orderSign_swap]

/-- The version whose first number is a numeral, and whose others are zero. -/
def major (numeral : Units) : Units := numeral ++ ascii ".0.0"

theorem parseVersion_major {numeral : Units} (digits : numeral.all isDigit = true) :
    parseVersion (major numeral) = ⟨[numeral, [48], [48]], []⟩ := by
  have plain : ∀ unit ∈ major numeral, unit ≠ 45 := by
    intro unit member hyphen
    subst hyphen
    rcases List.mem_append.mp member with own | zeros
    · exact absurd (List.all_eq_true.mp digits 45 own) (by decide)
    · exact absurd zeros (by decide)
  have dots : ∀ part ∈ [numeral, [48], [48]], (46 : UInt16) ∉ part := by
    intro part member dot
    simp only [List.mem_cons, List.not_mem_nil, or_false] at member
    rcases member with rfl | rfl | rfl
    · exact absurd (List.all_eq_true.mp digits 46 dot) (by decide)
    · exact absurd dot (by decide)
    · exact absurd dot (by decide)
  have whole : (major numeral).takeWhile (· != 45) = major numeral :=
    List.takeWhile_eq_self_iff.mpr fun unit member => bne_iff_ne.mpr (plain unit member)
  have joined : major numeral = [46].intercalate [numeral, [48], [48]] := by
    rw [major, show ascii ".0.0" = [46, 48, 46, 48] by decide]
    simp [List.intercalate, List.intersperse]
  unfold parseVersion
  dsimp only
  rw [whole, List.drop_length, joined, List.splitOn_intercalate 46 dots (by simp)]

theorem accepted_major {numeral : Units} (shaped : isNumeral numeral = true)
    (short : numeral.length ≤ 60) : Accepted (major numeral) := by
  have digits := isNumeral_digits shaped
  refine (accepted_iff _).mpr ⟨?_, ?_, ?_⟩
  · rw [isPackageVersion, parseVersion_major digits]
    simp [shaped, show isNumeral [48] = true by decide]
  · have zeros : (ascii ".0.0").length = 4 := by decide
    rw [major, List.length_append, zeros]
    omega
  · intro unit member
    rcases List.mem_append.mp member with own | zeros
    · have digit : 48 ≤ unit.toNat ∧ unit.toNat ≤ 57 := by
        simpa [isDigit] using List.all_eq_true.mp digits unit own
      omega
    · exact @forall_of_all (fun unit => unit.toNat < 0x80) _ _ (by decide) unit zeros

theorem Accepted.number_short {part : Units} (accepted : Accepted version)
    (member : part ∈ (parseVersion version).core) : part.length ≤ 60 := by
  have formed := accepted.wellformed
  have short := ((accepted_iff version).mp accepted).2.1
  rw [formed.whole, List.length_append] at short
  have filled : ∀ part ∈ (parseVersion version).core, 1 ≤ part.length := by
    intro part member
    rcases isNumeral_cases (formed.core part member).1 with rfl | ⟨unit, rest, rfl, -⟩ <;> simp
  obtain ⟨first, second, third, parts⟩ := List.length_eq_three.mp formed.long
  rw [parts] at short filled member
  simp only [List.forall_mem_cons] at filled
  simp only [List.intercalate, List.intersperse, List.flatten_cons, List.flatten_nil,
    List.length_append, List.length_singleton, List.length_nil] at short
  simp only [List.mem_cons, List.not_mem_nil, or_false] at member
  rcases member with rfl | rfl | rfl <;> omega

theorem compareCores_self (parts : List Units) : compareCores parts parts = none := by
  induction parts with
  | nil => rfl
  | cons part parts ih => rw [compareCores, if_pos rfl, ih]

theorem comparePrereleases_first (first : FirstApart lefts rights left right) :
    comparePrereleases lefts rights = comparePart left right := by
  induction first with
  | here differ => rw [comparePrereleases, if_neg differ]
  | later _ ih => rw [comparePrereleases, if_pos rfl, ih]

theorem comparePackageVersions_first
    (same : (parseVersion version).core = (parseVersion other).core)
    (first : FirstApart (parseVersion version).prerelease (parseVersion other).prerelease left right) :
    comparePackageVersions version other = comparePart left right := by
  have parts := comparePrereleases_first first
  unfold comparePackageVersions
  dsimp only
  rw [same, compareCores_self]
  revert first parts
  cases (parseVersion version).prerelease with
  | nil => exact fun first => nomatch first
  | cons =>
    cases (parseVersion other).prerelease with
    | nil => exact fun first => nomatch first
    | cons => exact fun _ parts => parts

theorem comparePart_one (one : ReadAsOne left right) (short : left.length ≤ 64)
    (short' : right.length ≤ 64) : comparePart left right = 1 := by
  have same := (numeralUnits_same one.1 one.2.1 short short').mpr one
  have never : ¬ numeralUnits left < numeralUnits right := by
    rw [same]
    exact Nat.lt_irrefl _
  simp only [comparePart, one.1, one.2.1, if_neg never]

theorem compare_major (parsed : parseVersion version = ⟨[left, [48], [48]], []⟩)
    (parsed' : parseVersion other = ⟨[right, [48], [48]], []⟩)
    (units : numeralUnits left = numeralUnits right) :
    comparePackageVersions version other = 0 := by
  have cores : compareCores [left, [48], [48]] [right, [48], [48]] = none := by
    rw [compareCores, if_pos units, compareCores_self]
  simp only [comparePackageVersions, parsed, parsed', cores]

/-- Versions whose first parts that differ are read as one number are not compared as they should be. -/
theorem told_of_compared (accepted : Accepted version) (accepted' : Accepted other)
    (compared : ∀ version' other', Accepted version' → Accepted other' → (∀ left right, FirstDiffer version' other' left right ↔ FirstDiffer version other left right) → Compared version' other') :
    Told version other := by
  have formed := accepted.wellformed
  have formed' := accepted'.wellformed
  rintro left right (first | ⟨same, first⟩) one
  · obtain ⟨member, member'⟩ := first.mem
    have units := (numeralUnits_same one.1 one.2.1 (formed.core left member).2
      (formed'.core right member').2).mpr one
    have parsed := parseVersion_major one.1
    have parsed' := parseVersion_major one.2.1
    have zero := compare_major parsed parsed' units
    have alike : ∀ part part', FirstDiffer (major left) (major right) part part' ↔
        FirstDiffer version other part part' := by
      intro part part'
      unfold FirstDiffer
      rw [parsed, parsed']
      constructor
      · rintro (apart | ⟨both, -⟩)
        · obtain ⟨rfl, rfl⟩ := (FirstApart.here first.ne).unique apart
          exact .inl first
        · exact absurd (List.cons.inj both).1 first.ne
      · rintro (apart | ⟨both, -⟩)
        · obtain ⟨rfl, rfl⟩ := first.unique apart
          exact .inl (.here first.ne)
        · rw [both] at first
          exact absurd (first.unique first.symm).1.symm first.ne
    have versions := compared (major left) (major right)
      (accepted_major (formed.core left member).1 (accepted.number_short member))
      (accepted_major (formed'.core right member').1 (accepted'.number_short member')) alike
    exact first.ne (List.append_cancel_right (versions.zero.mp zero))
  · obtain ⟨member, member'⟩ := first.mem
    have short := (formed.prerelease left member).short
    have short' := (formed'.prerelease right member').short
    have swap := (compared version other accepted accepted' fun _ _ => Iff.rfl).swap
    rw [comparePackageVersions_first same first, comparePart_one one short short',
      comparePackageVersions_first same.symm first.symm,
      comparePart_one ⟨one.2.1, one.1, one.2.2.symm⟩ short' short] at swap
    omega

theorem parseRuntimeRange_ok {value : JsValue} {field : Units} {range : RuntimeRangeV1}
    (parsed : parseRuntimeRange value field = .ok range) : Accepted range.minimumInclusive ∧
      Accepted range.maximumExclusive ∧
      comparePackageVersions range.minimumInclusive range.maximumExclusive < 0 := by
  have accept {value : JsValue} {field version : Units}
      (parsed : parsePackageVersion value field = .ok version) : Accepted version := by
    obtain ⟨-, form, small, ascii⟩ := parseForm_ok parsed
    rw [Klura.utf8Length_ascii ascii] at small
    exact (accepted_iff version).mpr ⟨form, small, ascii⟩
  obtain ⟨fields, -, parsed⟩ := Klura.bind_ok.mp parsed
  obtain ⟨minimum, first, parsed⟩ := Klura.bind_ok.mp parsed
  obtain ⟨maximum, second, parsed⟩ := Klura.bind_ok.mp parsed
  split at parsed
  · nomatch parsed
  · rename_i less
    cases parsed
    exact ⟨accept first, accept second, Int.lt_of_not_ge less⟩

/-- Versions are compared as semantic versioning orders them exactly when the parts in which they
first differ are not numerals that are read as one number; the comparison is then transitive, and a
range holds the versions from its first bound up to its second. -/
theorem comparePackageVersions_ordered (version other : Units) :
    (Accepted version → Accepted other →
      ((∀ version' other', Accepted version' → Accepted other' →
        (∀ left right, FirstDiffer version' other' left right ↔
          FirstDiffer version other left right) → Compared version' other') ↔
        Told version other)) ∧
    (∀ third, Accepted version → Accepted other → Accepted third →
      Told version other → Told other third → Told version third →
      comparePackageVersions version other < 0 → comparePackageVersions other third < 0 →
      comparePackageVersions version third < 0) ∧
    (∀ value field range, parseRuntimeRange value field = .ok range →
      Told range.minimumInclusive range.maximumExclusive →
      precedenceOf range.minimumInclusive < precedenceOf range.maximumExclusive ∧
      ∀ version, Accepted version → Told range.minimumInclusive version →
        Told version range.maximumExclusive →
        (runtimeSupportsVersion range version = true ↔
          precedenceOf version ∈ Set.Ico (precedenceOf range.minimumInclusive)
            (precedenceOf range.maximumExclusive))) := by
  refine ⟨fun accepted accepted' => ⟨told_of_compared accepted accepted', ?_⟩, ?_, ?_⟩
  · intro told version' other' accepted accepted' alike
    exact compared_of_told accepted.wellformed accepted'.wellformed fun left right first =>
      told left right ((alike left right).mp first)
  · intro third accepted accepted' accepted'' told told' told'' less less'
    rw [agrees_of_told accepted.wellformed accepted'.wellformed told, orderSign_neg] at less
    rw [agrees_of_told accepted'.wellformed accepted''.wellformed told', orderSign_neg] at less'
    rw [agrees_of_told accepted.wellformed accepted''.wellformed told'', orderSign_neg]
    exact less.trans less'
  · intro value field range parsed told
    obtain ⟨accepted, accepted', less⟩ := parseRuntimeRange_ok parsed
    rw [agrees_of_told accepted.wellformed accepted'.wellformed told, orderSign_neg] at less
    refine ⟨less, fun version own lower upper => ?_⟩
    rw [runtimeSupportsVersion, Bool.and_eq_true, decide_eq_true_eq, decide_eq_true_eq,
      agrees_of_told accepted.wellformed own.wellformed lower,
      agrees_of_told own.wellformed accepted'.wellformed upper, orderSign_nonpos, orderSign_neg,
      Set.mem_Ico]

/-- Numerals that a double rounds are compared as one number in a version's first number, and as one
that comes after the other, whichever comes first, in a prerelease. -/
theorem rounded_numerals :
    ¬ ((∀ version other, Accepted version → Accepted other →
        (comparePackageVersions version other = 0 ↔ version = other)) ∨
      ∀ version other, Accepted version → Accepted other →
        comparePackageVersions other version = -comparePackageVersions version other) := by
  rintro (zero | swap)
  · have one := (zero (ascii "9007199254740992.0.0") (ascii "9007199254740993.0.0")
      ((accepted_iff _).mpr ⟨by decide +kernel, by decide +kernel, forall_of_all (by decide +kernel)⟩)
      ((accepted_iff _).mpr ⟨by decide +kernel, by decide +kernel,
        forall_of_all (by decide +kernel)⟩)).mp (by decide +kernel)
    exact absurd one (by decide +kernel)
  · have turned := swap (ascii "1.0.0-9007199254740992") (ascii "1.0.0-9007199254740993")
      ((accepted_iff _).mpr ⟨by decide +kernel, by decide +kernel, forall_of_all (by decide +kernel)⟩)
      ((accepted_iff _).mpr ⟨by decide +kernel, by decide +kernel, forall_of_all (by decide +kernel)⟩)
    exact absurd turned (by decide +kernel)

end Klura
