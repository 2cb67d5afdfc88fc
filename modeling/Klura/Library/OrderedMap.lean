import Mathlib.Data.List.Basic

/-! Maps that keep their keys in the order of insertion. -/

namespace Klura

variable {κ ν : Type} [DecidableEq κ]

/-- A map as the list of its entries, oldest key first. -/
abbrev OrderedMap (κ ν : Type) : Type := List (κ × ν)

namespace OrderedMap

/-- The value of a key. -/
def get? : OrderedMap κ ν → κ → Option ν
  | [], _ => none
  | (key, value) :: rest, sought => if key = sought then some value else get? rest sought

/-- The map with a key's value replaced, or added at the end where the key is new. -/
def set : OrderedMap κ ν → κ → ν → OrderedMap κ ν
  | [], key, value => [(key, value)]
  | (first, old) :: rest, key, value =>
    if first = key then (first, value) :: rest else (first, old) :: set rest key value

/-- The map without a key. -/
def delete : OrderedMap κ ν → κ → OrderedMap κ ν
  | [], _ => []
  | (first, value) :: rest, key => if first = key then rest else (first, value) :: delete rest key

/-- The keys of a map, oldest first. -/
def keys (map : OrderedMap κ ν) : List κ := List.map Prod.fst map

attribute [local simp] get? set delete

/-- The entry that a key was just given is the one it has. -/
@[simp] theorem get?_set_self (map : OrderedMap κ ν) (key : κ) (value : ν) :
    get? (set map key value) key = some value := by
  induction map with
  | nil => simp [set, get?]
  | cons entry rest ih =>
    by_cases same : entry.1 = key
    · simp [set, get?, same]
    · simp [set, get?, same, ih]

variable {key : κ}

/-- Giving one key a value leaves the others alone. -/
theorem get?_set_of_ne (map : OrderedMap κ ν) {other : κ} (value : ν) (differs : other ≠ key) :
    get? (set map key value) other = get? map other := by
  induction map with
  | nil => simp [set, get?, differs.symm]
  | cons entry rest ih =>
    by_cases same : entry.1 = key
    · simp [set, get?, same, differs.symm]
    · by_cases first : entry.1 = other
      · simp [set, get?, first, differs]
      · simp [set, get?, same, first, ih]

variable {map : OrderedMap κ ν}

/-- A key with a value is one of the map's keys. -/
theorem get?_isSome_iff :
    (get? map key).isSome ↔ key ∈ map.keys := by
  induction map with
  | nil => simp [get?, keys]
  | cons entry rest ih =>
    by_cases same : entry.1 = key
    · simp [get?, keys, same]
    · simp only [get?, same, if_false, ih, keys, List.map_cons, List.mem_cons]
      exact ⟨.inr, fun member => member.resolve_left (Ne.symm same)⟩

theorem get?_eq_none_iff :
    get? map key = none ↔ key ∉ map.keys := by
  rw [← get?_isSome_iff]
  simp

variable {value : ν}

/-- The value of a key stands in one of the map's entries. -/
theorem mem_of_get? (found : get? map key = some value) : (key, value) ∈ map := by
  induction map with
  | nil => simp [get?] at found
  | cons entry rest ih =>
    by_cases same : entry.1 = key
    · simp only [get?, same, if_true, Option.some.injEq] at found
      subst found
      subst same
      simp
    · simp only [get?, same, if_false] at found
      exact List.mem_cons_of_mem _ (ih found)

/-- The entries of a map with distinct keys are what its keys are mapped to. -/
theorem get?_of_mem (distinct : map.keys.Nodup) (member : (key, value) ∈ map) :
    get? map key = some value := by
  induction map with
  | nil => simp at member
  | cons entry rest ih =>
    simp only [keys, List.map_cons, List.nodup_cons] at distinct
    rcases List.mem_cons.mp member with same | later
    · subst same
      simp [get?]
    · have differs : entry.1 ≠ key := by
        intro same
        exact distinct.1 (same ▸ List.mem_map_of_mem later)
      simp only [get?, differs, if_false]
      exact ih distinct.2 later

/-- Replacing the value of a key that the map has keeps the keys. -/
theorem keys_set_of_mem (value : ν) (member : key ∈ map.keys) :
    (set map key value).keys = map.keys := by
  induction map with
  | nil => simp [keys] at member
  | cons entry rest ih =>
    by_cases same : entry.1 = key
    · simp [set, keys, same]
    · simp only [keys, List.map_cons, List.mem_cons] at member
      have later : key ∈ keys rest := member.resolve_left (Ne.symm same)
      have kept := ih later
      simp only [keys] at kept
      simp [set, keys, same, kept]

/-- A new key comes last. -/
theorem set_of_not_mem (value : ν) (fresh : key ∉ map.keys) :
    set map key value = map ++ [(key, value)] := by
  induction map with
  | nil => rfl
  | cons entry rest ih =>
    simp only [keys, List.map_cons, List.mem_cons, not_or] at fresh
    simp [set, Ne.symm fresh.1, ih fresh.2]

/-- Deleting a key deletes it from the keys. -/
theorem keys_delete (map : OrderedMap κ ν) (key : κ) :
    (delete map key).keys = map.keys.erase key := by
  induction map with
  | nil => rfl
  | cons entry rest ih =>
    by_cases same : entry.1 = key
    · simp [delete, keys, same]
    · simp only [keys] at ih
      simp [delete, keys, same, ih]

theorem keys_delete_nodup (distinct : map.keys.Nodup) (key : κ) :
    (delete map key).keys.Nodup := by
  rw [keys_delete]
  exact distinct.erase key

/-- Deleting a key deletes only its entry. -/
theorem mem_of_mem_delete {entry : κ × ν} (member : entry ∈ delete map key) : entry ∈ map := by
  induction map with
  | nil => simp [delete] at member
  | cons first rest ih =>
    by_cases same : first.1 = key
    · simp only [delete, same, if_true] at member
      exact List.mem_cons_of_mem _ member
    · simp only [delete, same, if_false, List.mem_cons] at member
      rcases member with head | later
      · simp [head]
      · exact List.mem_cons_of_mem _ (ih later)

/-- Deleting one key leaves the others alone. -/
theorem get?_delete_of_ne (map : OrderedMap κ ν) {other : κ} (differs : other ≠ key) :
    get? (delete map key) other = get? map other := by
  induction map with
  | nil => rfl
  | cons entry rest ih =>
    by_cases same : entry.1 = key
    · simp [delete, get?, same, differs.symm]
    · by_cases first : entry.1 = other
      · simp [delete, get?, first, differs]
      · simp [delete, get?, same, first, ih]

/-- An entry of a changed map is the changed one or an old one. -/
theorem mem_of_mem_set {entry : κ × ν} (member : entry ∈ set map key value) :
    entry = (key, value) ∨ entry ∈ map := by
  induction map with
  | nil => exact .inl (by simpa [set] using member)
  | cons first rest ih =>
    by_cases same : first.1 = key
    · simp only [set, same, if_true, List.mem_cons] at member
      rcases member with head | later
      · exact .inl head
      · exact .inr (List.mem_cons_of_mem _ later)
    · simp only [set, same, if_false, List.mem_cons] at member
      rcases member with head | later
      · exact .inr (by simp [head])
      · exact (ih later).imp_right (List.mem_cons_of_mem _)

/-- A key that was just set is deleted like the old one. -/
@[simp] theorem delete_set_self (map : OrderedMap κ ν) (key : κ) (value : ν) :
    delete (set map key value) key = delete map key := by
  induction map with
  | nil => simp [set, delete]
  | cons entry rest ih =>
    by_cases same : entry.1 = key
    · simp [set, delete, same]
    · simp [set, delete, same, ih]

/-- Deleting a key that the map does not have changes nothing. -/
theorem delete_of_not_mem (absent : key ∉ map.keys) :
    delete map key = map := by
  induction map with
  | nil => rfl
  | cons entry rest ih =>
    simp only [keys, List.map_cons, List.mem_cons, not_or] at absent
    simp [delete, Ne.symm absent.1, ih absent.2]

/-- The values of a map are one key's and those of the map without it. -/
theorem values_perm_of_get? (found : get? map key = some value) :
    List.Perm (List.map Prod.snd map) (value :: List.map Prod.snd (delete map key)) := by
  induction map with
  | nil => simp [get?] at found
  | cons entry rest ih =>
    by_cases same : entry.1 = key
    · simp only [get?, same, if_true, Option.some.injEq] at found
      simp [delete, same, found]
    · simp only [get?, same, if_false] at found
      simp only [delete, same, if_false, List.map_cons]
      exact ((ih found).cons _).trans (List.Perm.swap _ _ _)

theorem values_perm_set (map : OrderedMap κ ν) (key : κ) (value : ν) :
    List.Perm (List.map Prod.snd (set map key value))
      (value :: List.map Prod.snd (delete map key)) := by
  have changed := values_perm_of_get? (get?_set_self map key value)
  rwa [delete_set_self] at changed

end OrderedMap

end Klura
