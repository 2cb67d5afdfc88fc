import Mathlib.Data.List.Nodup

/-! A list served in turns from a cursor, while its members join and leave. -/

namespace Klura

variable {α : Type}

/-- The order in which a list is served when the next turn is its cursor's. -/
def rotation (order : List α) (cursor : Nat) : List α :=
  order.drop cursor ++ order.take cursor

/-- Whether one member is served before the other comes to its turn. -/
def Ahead (service : List α) (first second : α) : Prop :=
  ∃ front back, service = front ++ first :: back ∧ second ∉ front

@[simp] theorem rotation_zero (order : List α) : rotation order 0 = order := by
  simp [rotation]

@[simp] theorem rotation_length (order : List α) : rotation order order.length = order := by
  simp [rotation]

variable {order : List α} {cursor : Nat}

@[simp] theorem mem_rotation {member : α} :
    member ∈ rotation order cursor ↔ member ∈ order := by
  rw [rotation, List.mem_append, or_comm, ← List.mem_append, List.take_append_drop]

theorem nodup_rotation (distinct : order.Nodup) (cursor : Nat) :
    (rotation order cursor).Nodup := by
  have split : (order.take cursor ++ order.drop cursor).Nodup := by
    rwa [List.take_append_drop]
  exact List.nodup_append_comm.mp split

/-- The first turn is the cursor's, and the next rotation starts behind it. -/
theorem rotation_next (within : cursor < order.length) :
    ∃ rest, rotation order cursor = order[cursor] :: rest ∧
      rotation order ((cursor + 1) % order.length) = rest ++ [order[cursor]] := by
  refine ⟨order.drop (cursor + 1) ++ order.take cursor, ?_, ?_⟩
  · rw [rotation, List.drop_eq_getElem_cons within, List.cons_append]
  · have taken : order.take (cursor + 1) = order.take cursor ++ [order[cursor]] := by
      simp
    by_cases last : cursor + 1 = order.length
    · -- Behind the last turn the service starts over.
      rw [last, Nat.mod_self, rotation_zero, List.drop_length, List.nil_append, ← taken, last,
        List.take_length]
    · rw [Nat.mod_eq_of_lt (by omega), rotation, taken, List.append_assoc]

section Leaving

variable [DecidableEq α]

/-- The cursor once a member has left: it follows the members that were before it. -/
def cursorWithout (order : List α) (cursor : Nat) (member : α) : Nat :=
  if order.idxOf member < cursor then cursor - 1 else cursor

/-- Who leaves leaves the service order, and the others keep their turns. -/
theorem rotation_erase {order : List α} (distinct : order.Nodup) {cursor : Nat}
    (within : cursor ≤ order.length) {member : α} (present : member ∈ order) :
    rotation (order.erase member) (cursorWithout order cursor member) =
      (rotation order cursor).erase member := by
  have split : order.take cursor ++ order.drop cursor = order := List.take_append_drop _ _
  have apart : ∀ x ∈ order.take cursor, x ∉ order.drop cursor := by
    rw [← split, List.nodup_append] at distinct
    exact fun x taken dropped => distinct.2.2 x taken x dropped rfl
  have index : order.idxOf member = (order.take cursor ++ order.drop cursor).idxOf member := by
    rw [split]
  have length : (order.take cursor).length = cursor := by
    simp [within]
  by_cases before : member ∈ order.take cursor
  · -- The part before the cursor becomes shorter by one.
    have early : order.idxOf member < cursor := by
      have inside := List.idxOf_lt_length_of_mem before
      rw [index, List.idxOf_append_of_mem before]
      omega
    have erased : order.erase member = (order.take cursor).erase member ++ order.drop cursor := by
      conv_lhs => rw [← split]
      exact List.erase_append_left _ before
    have shorter : ((order.take cursor).erase member).length = cursor - 1 := by
      rw [List.length_erase_of_mem before, length]
    rw [cursorWithout, if_pos early, rotation, erased, List.drop_left' shorter,
      List.take_left' shorter, rotation, List.erase_append_right _ (apart member before)]
  · have behind : member ∈ order.drop cursor := by
      rw [← split, List.mem_append] at present
      exact present.resolve_left before
    have late : ¬ order.idxOf member < cursor := by
      rw [index, List.idxOf_append_of_notMem before, length]
      omega
    have erased : order.erase member = order.take cursor ++ (order.drop cursor).erase member := by
      conv_lhs => rw [← split]
      exact List.erase_append_right _ before
    rw [cursorWithout, if_neg late, rotation, erased, List.drop_left' length,
      List.take_left' length, rotation, List.erase_append_left _ behind]

end Leaving

theorem rotation_join (within : cursor ≤ order.length) (member : α) :
    rotation (order ++ [member]) cursor = order.drop cursor ++ member :: order.take cursor := by
  rw [rotation, List.drop_append_of_le_length within, List.take_append_of_le_length within,
    List.append_assoc, List.singleton_append]

namespace Ahead

variable {service : List α} {first second : α}

theorem mem (ahead : Ahead service first second) : first ∈ service := by
  obtain ⟨front, back, rfl, _⟩ := ahead
  simp

/-- Nobody else is ahead of the first in turn. -/
theorem eq_head {rest : List α} (ahead : Ahead (second :: rest) first second) :
    first = second := by
  obtain ⟨front, back, split, absent⟩ := ahead
  cases front with
  | nil => simp only [List.nil_append, List.cons.injEq] at split; exact split.1.symm
  | cons head front =>
    simp only [List.cons_append, List.cons.injEq] at split
    exact absurd (by simp [split.1]) absent

/-- Who is ahead stays so when somebody else has had the first turn. -/
theorem tail {head : α} {rest : List α} (ahead : Ahead (head :: rest) first second)
    (differs : first ≠ head) (more : List α) : Ahead (rest ++ more) first second := by
  obtain ⟨front, back, split, absent⟩ := ahead
  cases front with
  | nil => simp only [List.nil_append, List.cons.injEq] at split; exact absurd split.1.symm differs
  | cons before front =>
    simp only [List.cons_append, List.cons.injEq] at split
    refine ⟨front, back ++ more, by rw [split.2]; simp, fun member => ?_⟩
    exact absent (List.mem_cons_of_mem _ member)

theorem of_mem {rest : List α} (member : first ∈ rest) (absent : second ∉ rest)
    (more : List α) : Ahead (rest ++ more) first second := by
  obtain ⟨front, back, rfl⟩ := List.append_of_mem member
  refine ⟨front, back ++ more, by simp, fun early => absent ?_⟩
  simp [early]

/-- Who is ahead stays so when somebody else leaves. -/
theorem erase [DecidableEq α] {gone : α} (ahead : Ahead service first second)
    (differs : first ≠ gone) : Ahead (service.erase gone) first second := by
  obtain ⟨front, back, rfl, absent⟩ := ahead
  by_cases early : gone ∈ front
  · refine ⟨front.erase gone, back, List.erase_append_left _ early, fun member => ?_⟩
    exact absent (List.mem_of_mem_erase member)
  · refine ⟨front, back.erase gone, ?_, absent⟩
    rw [List.erase_append_right _ early, List.erase_cons_tail (by simpa using differs)]

/-- Who is ahead stays so when a third member joins anywhere. -/
theorem insert {left right : List α} {joined : α} (ahead : Ahead (left ++ right) first second)
    (differs : second ≠ joined) : Ahead (left ++ joined :: right) first second := by
  obtain ⟨front, back, split, absent⟩ := ahead
  rcases List.append_eq_append_iff.mp split with ⟨middle, frontIs, rightIs⟩ | ⟨middle, leftIs, backIs⟩
  · -- The joining member comes before the one that is ahead.
    refine ⟨left ++ joined :: middle, back, by simp [rightIs], fun member => ?_⟩
    rw [List.mem_append, List.mem_cons] at member
    rcases member with early | same | between
    · exact absent (by simp [frontIs, early])
    · exact differs same
    · exact absent (by simp [frontIs, between])
  · cases middle with
    | nil =>
      simp only [List.append_nil] at leftIs
      simp only [List.nil_append] at backIs
      refine ⟨left ++ [joined], back, by simp [← backIs], fun member => ?_⟩
      rw [List.mem_append, List.mem_singleton] at member
      rcases member with early | same
      · exact absent (leftIs ▸ early)
      · exact differs same
    | cons head middle =>
      simp only [List.cons_append, List.cons.injEq] at backIs
      refine ⟨front, middle ++ joined :: right, ?_, absent⟩
      rw [leftIs, backIs.1]
      simp

end Ahead

end Klura
