import Mathlib.Data.List.Basic

/-! Reading a list of numbered entries page by page, each page beginning behind a cursor. -/

namespace Klura

variable {α : Type}

/-- Fills a page with the entries behind a cursor, and says where the next page begins. -/
def fillPage (number : α → Nat) (cursor limit : Nat) (paged : List α) :
    List α → List α × Option Nat
  | [] => (paged, none)
  | entry :: rest =>
    if number entry ≤ cursor then fillPage number cursor limit paged rest
    else if limit ≤ paged.length then (paged, paged.getLast?.map number)
    else fillPage number cursor limit (paged ++ [entry]) rest

/-- The entries behind a cursor. -/
def behind (number : α → Nat) (cursor : Nat) (entries : List α) : List α :=
  entries.filter fun entry => decide (cursor < number entry)

section Page

variable {number : α → Nat} {cursor limit : Nat}

/-- A page holds the first entries behind its cursor, and names a next one when it leaves some. -/
theorem fillPage_eq (entries paged : List α) (room : paged.length ≤ limit) :
    fillPage number cursor limit paged entries =
      (paged ++ (behind number cursor entries).take (limit - paged.length),
        if limit < paged.length + (behind number cursor entries).length then
          (paged ++ (behind number cursor entries).take (limit - paged.length)).getLast?.map number
        else none) := by
  -- The loop appends one entry at a time, so the induction keeps the page filled so far.
  induction entries generalizing paged with
  | nil => simp [fillPage, behind, Nat.not_lt.mpr room]
  | cons entry rest ih =>
    unfold fillPage
    by_cases before : number entry ≤ cursor
    · have skipped : behind number cursor (entry :: rest) = behind number cursor rest := by
        simp [behind, Nat.not_lt.mpr before]
      rw [if_pos before, skipped]
      exact ih paged room
    · have kept : behind number cursor (entry :: rest) = entry :: behind number cursor rest := by
        simp [behind, Nat.lt_of_not_le before]
      rw [if_neg before, kept]
      by_cases full : limit ≤ paged.length
      · have exact_ : paged.length = limit := Nat.le_antisymm room full
        simp [exact_]
      · have left : limit - paged.length = limit - (paged ++ [entry]).length + 1 := by
          rw [List.length_append, List.length_singleton]
          omega
        have more : (paged ++ [entry]).length ≤ limit := by
          rw [List.length_append, List.length_singleton]
          omega
        rw [if_neg full, ih _ more, left, List.take_succ_cons, List.append_assoc]
        simp only [List.length_append, List.length_cons, List.length_nil, List.singleton_append,
          Nat.zero_add, Nat.add_assoc, Nat.add_comm 1]

/-- The cursor of the next page is the number of one of the entries. -/
theorem fillPage_next {entries : List α} {next : Nat}
    (names : (fillPage number cursor limit [] entries).2 = some next) :
    ∃ entry ∈ entries, number entry = next := by
  rw [fillPage_eq entries [] (Nat.zero_le _)] at names
  dsimp only at names
  split at names
  · obtain ⟨last, found, rfl⟩ := Option.map_eq_some_iff.mp names
    rw [List.nil_append] at found
    exact ⟨last, (List.mem_filter.mp (List.mem_of_mem_take (List.mem_of_getLast? found))).1, rfl⟩
  · cases names

/-- Behind the last entry of a page stand the entries that the page has left. -/
theorem behind_last {entries : List α} (sorted : entries.Pairwise fun one other =>
    number one < number other) {last : α} {count : Nat}
    (taken : (entries.take (count + 1)).getLast? = some last) (inside : count < entries.length) :
    behind number (number last) entries = entries.drop (count + 1) := by
  -- What was taken does not stand behind its last entry, and what was dropped does.
  have here : entries[count] = last := by
    rw [List.getLast?_eq_getElem?, List.length_take, Nat.min_eq_left inside,
      Nat.succ_sub_one, List.getElem?_take_of_lt (Nat.lt_succ_self count),
      List.getElem?_eq_getElem inside] at taken
    exact Option.some.inj taken
  subst here
  have order := List.pairwise_iff_getElem.mp sorted
  have front : (entries.take (count + 1)).filter
      (fun entry => decide (number entries[count] < number entry)) = [] := by
    rw [List.filter_eq_nil_iff]
    intro entry member
    obtain ⟨index, bound, rfl⟩ := List.mem_iff_getElem.mp member
    rw [List.length_take] at bound
    rw [List.getElem_take]
    rcases Nat.lt_or_ge index count with earlier | later
    · have := order index count (by omega) inside earlier
      simp only [decide_eq_true_eq, Nat.not_lt]
      omega
    · have same : index = count := by omega
      subst same
      simp
  have back : (entries.drop (count + 1)).filter
      (fun entry => decide (number entries[count] < number entry)) =
        entries.drop (count + 1) := by
    rw [List.filter_eq_self]
    intro entry member
    obtain ⟨index, bound, rfl⟩ := List.mem_iff_getElem.mp member
    rw [List.length_drop] at bound
    rw [List.getElem_drop]
    have := order count (count + 1 + index) inside (by omega) (by omega)
    simpa using this
  have split := congrArg (behind number (number entries[count]))
    (List.take_append_drop (count + 1) entries)
  rw [← split]
  unfold behind
  rw [List.filter_append, front, back, List.nil_append]

/-- Reads page after page from a cursor on, in at most a number of pages. -/
def readPages (number : α → Nat) (limit : Nat) (entries : List α) : Nat → Nat → Option (List α)
  | 0, _ => none
  | pages + 1, cursor =>
    match fillPage number cursor limit [] entries with
    | (page, none) => some page
    | (page, some next) => (readPages number limit entries pages next).map fun rest => page ++ rest

/-- Page after page, every entry behind the first cursor is read once and in order. -/
theorem readPages_eq {entries : List α} (sorted : entries.Pairwise fun one other =>
    number one < number other) (positive : 0 < limit) (pages : Nat)
    (enough : (behind number cursor entries).length < pages) :
    readPages number limit entries pages cursor = some (behind number cursor entries) := by
  -- Every page but the last one takes at least one entry away from what is left.
  induction pages generalizing cursor with
  | zero => omega
  | succ pages ih =>
    have page := @fillPage_eq α number cursor limit entries [] (Nat.zero_le _)
    simp only [List.length_nil, Nat.zero_add, Nat.sub_zero, List.nil_append] at page
    unfold readPages
    rw [page]
    have order : (behind number cursor entries).Pairwise fun one other =>
        number one < number other := sorted.filter _
    by_cases more : limit < (behind number cursor entries).length
    · obtain ⟨count, rfl⟩ : ∃ count, limit = count + 1 := ⟨limit - 1, by omega⟩
      have some_ : ((behind number cursor entries).take (count + 1)).getLast? ≠ none := by
        intro empty
        rw [List.getLast?_eq_none_iff, List.take_eq_nil_iff] at empty
        rcases empty with impossible | empty
        · omega
        · rw [empty] at more
          exact absurd more (Nat.not_lt_zero _)
      obtain ⟨last, found⟩ := Option.ne_none_iff_exists'.mp some_
      -- What stands behind the page's last entry is what the page has left.
      have rest : behind number (number last) entries =
          (behind number cursor entries).drop (count + 1) := by
        rw [← behind_last order found (by omega)]
        unfold behind
        rw [List.filter_filter]
        refine List.filter_congr fun entry _ => ?_
        have later : cursor < number last := by
          have member := List.mem_of_mem_take (List.mem_of_getLast? found)
          unfold behind at member
          exact of_decide_eq_true (List.mem_filter.mp member).2
        rw [Bool.eq_iff_iff]
        simp only [Bool.and_eq_true, decide_eq_true_eq]
        omega
      rw [if_pos more, found]
      dsimp only [Option.map_some]
      rw [ih (by rw [rest, List.length_drop]; omega), rest]
      exact congrArg some (List.take_append_drop _ _)
    · rw [if_neg more]
      exact congrArg some (List.take_of_length_le (Nat.le_of_not_lt more))

end Page

end Klura
