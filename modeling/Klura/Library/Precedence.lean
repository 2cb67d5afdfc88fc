import Mathlib.Data.List.Lex
import Mathlib.Data.Prod.Lex
import Mathlib.Data.Sum.Order
import Mathlib.Order.WithBot

/-! The precedence of semantic versions, and the signs of comparisons in linear orders. -/

namespace Klura

/-- The sign of a comparison. -/
def orderSign {α : Type} [LinearOrder α] (left right : α) : Int :=
  if left < right then -1 else if right < left then 1 else 0

section Signs

variable {α β : Type} [LinearOrder α] [LinearOrder β]

@[simp] theorem orderSign_self (value : α) : orderSign value value = 0 := by simp [orderSign]

theorem orderSign_eq_zero {left right : α} : orderSign left right = 0 ↔ left = right := by
  rcases lt_trichotomy left right with less | rfl | more
  · simp [orderSign, less, less.ne]
  · simp
  · simp [orderSign, more, more.ne', more.not_gt]

theorem orderSign_neg {left right : α} : orderSign left right < 0 ↔ left < right := by
  unfold orderSign
  split_ifs with less more <;> simp [less]

theorem orderSign_nonpos {left right : α} : orderSign left right ≤ 0 ↔ left ≤ right := by
  unfold orderSign
  split_ifs with less more
  · simp [less.le]
  · simp [more]
  · simp [not_lt.mp more]

theorem orderSign_swap (left right : α) : orderSign right left = -orderSign left right := by
  rcases lt_trichotomy left right with less | rfl | more
  · simp [orderSign, less, less.not_gt]
  · simp
  · simp [orderSign, more, more.not_gt]

/-- Lists are compared by the first of their members that differ. -/
theorem orderSign_cons (left right : α) (lefts rights : List α) :
    orderSign (left :: lefts) (right :: rights) =
      if left = right then orderSign lefts rights else orderSign left right := by
  split_ifs with same
  · subst same
    rcases lt_trichotomy lefts rights with less | rfl | more
    · simp [orderSign, less]
    · simp
    · simp [orderSign, more, more.not_gt]
  · simp [orderSign, List.cons_lt_cons_iff, same, Ne.symm same]

theorem orderSign_toLex (left right : α × β) :
    orderSign (toLex left) (toLex right) =
      if left.1 = right.1 then orderSign left.2 right.2 else orderSign left.1 right.1 := by
  split_ifs with same
  · simp [orderSign, Prod.Lex.toLex_lt_toLex, same]
  · simp [orderSign, Prod.Lex.toLex_lt_toLex, same, Ne.symm same]

end Signs

/-- An identifier: a numeral, or a word, which every numeral comes before. -/
abbrev Identifier : Type := ℕ ⊕ₗ List ℕ

/-- Where a version stands: its numbers, and then its prerelease, which comes before none. -/
abbrev Precedence : Type := List ℕ ×ₗ WithTop (List Identifier)

/-- Two lists first differ in two of their members. -/
inductive FirstApart {α : Type} : List α → List α → α → α → Prop where
  | here {left right : α} {lefts rights : List α} (differ : left ≠ right) :
    FirstApart (left :: lefts) (right :: rights) left right
  | later {same left right : α} {lefts rights : List α} (apart : FirstApart lefts rights left right) :
    FirstApart (same :: lefts) (same :: rights) left right

namespace FirstApart

variable {α : Type} {left right : α} {lefts rights : List α}

theorem ne (apart : FirstApart lefts rights left right) : left ≠ right := by
  induction apart with
  | here differ => exact differ
  | later _ ih => exact ih

/-- Lists first differ in no other members. -/
theorem unique (apart : FirstApart lefts rights left right) {other other' : α}
    (apart' : FirstApart lefts rights other other') : other = left ∧ other' = right := by
  induction apart with
  | here differ =>
    cases apart' with
    | here => exact ⟨rfl, rfl⟩
    | later => exact absurd rfl differ
  | later apart ih =>
    cases apart' with
    | here differ => exact absurd rfl differ
    | later apart' => exact ih apart'

theorem mem (apart : FirstApart lefts rights left right) : left ∈ lefts ∧ right ∈ rights := by
  induction apart with
  | here => exact ⟨List.mem_cons_self, List.mem_cons_self⟩
  | later _ ih => exact ⟨List.mem_cons_of_mem _ ih.1, List.mem_cons_of_mem _ ih.2⟩

theorem symm (apart : FirstApart lefts rights left right) : FirstApart rights lefts right left := by
  induction apart with
  | here differ => exact .here differ.symm
  | later _ ih => exact .later ih

end FirstApart

end Klura
