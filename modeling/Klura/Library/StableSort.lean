import Mathlib.Data.List.Sort

/-! What a stable sort keeps of a list: the elements of each class, in their order. -/

namespace Klura

variable {α : Type} {before : α → α → Prop} [DecidableRel before]

/-- Sorting keeps the order of elements that it may leave as they stand. -/
theorem filter_insertionSort {p : α → Bool}
    (alike : ∀ left right, p left = true → p right = true → before left right) (list : List α) :
    (list.insertionSort before).filter p = list.filter p := by
  have sorted : (list.filter p).Pairwise before := List.pairwise_of_forall_mem_list
    fun left first right second =>
      alike left right (List.mem_filter.mp first).2 (List.mem_filter.mp second).2
  have inside := (List.sublist_insertionSort sorted List.filter_sublist).filter p
  rw [List.filter_filter, List.filter_congr fun _ _ => Bool.and_self _] at inside
  -- The sorted list has no more of these elements than the list.
  refine (inside.eq_of_length ?_).symm
  exact ((List.perm_insertionSort before list).filter p).length_eq.symm

/-- The elements that a sort tells apart from no element of a class. -/
def inClass (before : α → α → Prop) [DecidableRel before] (element other : α) : Bool :=
  decide (before element other ∧ before other element)

/-- Sorted lists with the same elements in each class are the same. -/
theorem sorted_unique [Std.Total before] [IsTrans α before] {left right : List α}
    (first : left.Pairwise before) (second : right.Pairwise before)
    (same : ∀ element, left.filter (inClass before element) =
      right.filter (inClass before element)) : left = right := by
  have self : ∀ element, inClass before element element = true := fun element => by
    have both := or_self_iff.mp (total_of before element element)
    simp [inClass, both]
  induction left generalizing right with
  | nil =>
    cases right with
    | nil => rfl
    | cons head rest =>
      have own := same head
      rw [List.filter_cons_of_pos (self head)] at own
      exact absurd own (by simp)
  | cons head rest ih =>
    cases right with
    | nil =>
      have own := same head
      rw [List.filter_cons_of_pos (self head)] at own
      exact absurd own (by simp)
    | cons other later =>
      obtain ⟨below, first⟩ := List.pairwise_cons.mp first
      obtain ⟨under, sorted⟩ := List.pairwise_cons.mp second
      -- Each head is among the elements of the other list, so that both are in one class.
      have among : ∀ {element : α} {front back : List α}, front.filter (inClass before element) =
          back.filter (inClass before element) → element ∈ front → element ∈ back :=
        fun equal member => (List.mem_filter.mp (equal ▸ List.mem_filter.mpr ⟨member, self _⟩)).1
      have there := among (same head) List.mem_cons_self
      have here := among (same other).symm List.mem_cons_self
      have forth : before head other := by
        rcases List.mem_cons.mp here with rfl | inside
        · exact or_self_iff.mp (total_of before other other)
        · exact below other inside
      have back : before other head := by
        rcases List.mem_cons.mp there with rfl | inside
        · exact or_self_iff.mp (total_of before head head)
        · exact under head inside
      have own := same head
      rw [List.filter_cons_of_pos (self head),
        List.filter_cons_of_pos (by simp [inClass, forth, back])] at own
      obtain ⟨rfl, -⟩ := List.cons.inj own
      refine congrArg _ (ih first sorted fun element => ?_)
      have own := same element
      simp only [List.filter_cons] at own
      split at own
      · exact (List.cons.inj own).2
      · exact own

/-- Two lists are sorted alike just when they have the same elements in each class. -/
theorem insertionSort_eq_iff [Std.Total before] [IsTrans α before] {left right : List α} :
    left.insertionSort before = right.insertionSort before ↔
      ∀ element, left.filter (inClass before element) = right.filter (inClass before element) := by
  have kept : ∀ (list : List α) (element : α),
      (list.insertionSort before).filter (inClass before element) =
        list.filter (inClass before element) := by
    intro list element
    refine filter_insertionSort (fun first second below above => ?_) list
    simp only [inClass, decide_eq_true_eq] at below above
    exact trans_of before below.2 above.1
  constructor
  · intro equal element
    rw [← kept left, ← kept right, equal]
  · intro same
    refine sorted_unique (List.pairwise_insertionSort before left)
      (List.pairwise_insertionSort before right) fun element => ?_
    rw [kept, kept, same]

end Klura
