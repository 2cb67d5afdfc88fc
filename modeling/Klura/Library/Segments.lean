import Mathlib.Data.List.Basic

/-! An append-only file of values, each of which begins where the one before it ends. -/

namespace Klura

variable {α ρ : Type}

/-- Where a segment of a file begins and how long it is. -/
structure SegmentLayout (ρ : Type) where
  offset : ρ → Nat
  length : ρ → Nat

namespace SegmentLayout

variable (layout : SegmentLayout ρ)

/-- Where a segment ends. -/
def stop (segment : ρ) : Nat := layout.offset segment + layout.length segment

/-- Where the next segment of a file begins, whose entries are given newest first. -/
def fileEnd : List (α × ρ) → Nat
  | [] => 0
  | entry :: _ => layout.stop entry.2

/-- Every entry of a file, given newest first, begins where the one before it ends. -/
def Segmented : List (α × ρ) → Prop
  | [] => True
  | entry :: older => layout.offset entry.2 = layout.fileEnd older ∧
      0 < layout.length entry.2 ∧ Segmented older

end SegmentLayout

namespace SegmentLayout.Segmented

variable {layout : SegmentLayout ρ} {entries : List (α × ρ)}

/-- No entry reaches past the end of its file, and none is empty. -/
theorem within (segmented : layout.Segmented entries) {entry : α × ρ} (member : entry ∈ entries) :
    layout.stop entry.2 ≤ layout.fileEnd entries ∧ 0 < layout.length entry.2 := by
  induction entries with
  | nil => exact absurd member List.not_mem_nil
  | cons newest older ih =>
    obtain ⟨begins, filled, segmented⟩ := segmented
    rcases List.mem_cons.mp member with same | member
    · rw [same]
      exact ⟨Nat.le_refl _, filled⟩
    · have below := ih segmented member
      have ends : layout.fileEnd (newest :: older) =
          layout.offset newest.2 + layout.length newest.2 := rfl
      omega

/-- A segment leads to the one entry that it was written for. -/
theorem find [DecidableEq ρ] (segmented : layout.Segmented entries) {value : α} {segment : ρ}
    (member : (value, segment) ∈ entries) :
    entries.find? (fun entry => entry.2 = segment) = some (value, segment) := by
  induction entries with
  | nil => exact absurd member List.not_mem_nil
  | cons newest older ih =>
    rw [List.find?_cons]
    rcases List.mem_cons.mp member with same | member
    · rw [← same]
      simp
    · have below := segmented.2.2.within member
      -- A newer entry begins behind the end of every older one.
      have other : newest.2 ≠ segment := by
        intro same
        have begins := segmented.1
        rw [same] at begins
        have ends : layout.stop segment = layout.offset segment + layout.length segment := rfl
        dsimp only at below
        omega
      simp only [other, decide_false]
      exact ih segmented.2.2 member

/-- A segment was written once. -/
theorem unique (segmented : layout.Segmented entries) {left right : α} {segment : ρ}
    (leftMember : (left, segment) ∈ entries) (rightMember : (right, segment) ∈ entries) :
    left = right := by
  classical
  have found := segmented.find leftMember
  rw [segmented.find rightMember] at found
  cases found
  rfl

/-- A file cut off at an offset is one of its older files. -/
theorem cut (segmented : layout.Segmented entries) (offset : Nat) :
    layout.Segmented (entries.filter fun entry => layout.offset entry.2 < offset) := by
  induction entries with
  | nil => exact trivial
  | cons newest older ih =>
    obtain ⟨begins, filled, segmented⟩ := segmented
    by_cases before : layout.offset newest.2 < offset
    · -- Everything older begins even earlier, so nothing older is cut off.
      have all : older.filter (fun entry => layout.offset entry.2 < offset) = older := by
        refine List.filter_eq_self.mpr fun entry member => decide_eq_true ?_
        have below := segmented.within member
        unfold stop at below
        omega
      rw [List.filter_cons_of_pos (by simpa using before), all]
      exact ⟨begins, filled, segmented⟩
    · rw [List.filter_cons_of_neg (by simpa using before)]
      exact ih segmented

theorem append (segmented : layout.Segmented entries) {value : α} {segment : ρ}
    (begins : layout.offset segment = layout.fileEnd entries)
    (filled : 0 < layout.length segment) : layout.Segmented ((value, segment) :: entries) :=
  ⟨begins, filled, segmented⟩

end SegmentLayout.Segmented

end Klura
