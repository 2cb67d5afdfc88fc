import Mathlib.Data.List.AList

/-! Maps of maps, whose inner maps are dropped once they are empty. -/

namespace Klura

variable {κ ι ν : Type} [DecidableEq κ] [DecidableEq ι]

/-- A map from two keys, by way of a map for each of the first ones. -/
abbrev NestedMap (κ ι ν : Type) : Type := AList fun _ : κ => AList fun _ : ι => ν

namespace NestedMap

/-- The value of two keys. -/
def get? (map : NestedMap κ ι ν) (outer : κ) (inner : ι) : Option ν :=
  (map.lookup outer).bind (AList.lookup inner)

/-- The map with a value for two keys, the inner map made where there is none. -/
def put (map : NestedMap κ ι ν) (outer : κ) (inner : ι) (value : ν) : NestedMap κ ι ν :=
  map.insert outer (((map.lookup outer).getD ∅).insert inner value)

/-- The map without two keys, nor the inner map where they were its last ones. -/
def drop (map : NestedMap κ ι ν) (outer : κ) (inner : ι) : NestedMap κ ι ν :=
  match map.lookup outer with
  | none => map
  | some found =>
    let rest := found.erase inner
    if rest.entries.isEmpty then map.erase outer else map.insert outer rest

/-- The values under a first key. -/
def valuesOf (map : NestedMap κ ι ν) (outer : κ) : List ν :=
  ((map.lookup outer).getD ∅).entries.map fun entry => entry.2

/-- All the values of a map. -/
def values (map : NestedMap κ ι ν) : List ν :=
  map.entries.flatMap fun entry => entry.2.entries.map fun inner => inner.2

@[simp] theorem get?_empty (outer : κ) (inner : ι) :
    get? (∅ : NestedMap κ ι ν) outer inner = none := rfl

@[simp] theorem get?_put_self (map : NestedMap κ ι ν) (outer : κ) (inner : ι) (value : ν) :
    get? (put map outer inner value) outer inner = some value := by
  simp [get?, put]

variable {outer other : κ} {inner : ι}

/-- Giving two keys a value leaves the others alone. -/
theorem get?_put_of_ne (map : NestedMap κ ι ν) {another : ι} (value : ν)
    (differs : other = outer → another ≠ inner) :
    get? (put map outer inner value) other another = get? map other another := by
  by_cases same : other = outer
  · subst same
    have apart : another ≠ inner := differs rfl
    simp only [get?, put, AList.lookup_insert, Option.bind_some, AList.lookup_insert_ne apart]
    -- An inner map that was made for the value has nothing else in it.
    cases map.lookup other with
    | none => rfl
    | some found => rfl
  · simp only [get?, put, AList.lookup_insert_ne same]

/-- Two keys that were dropped have no value. -/
@[simp] theorem get?_drop_self (map : NestedMap κ ι ν) (outer : κ) (inner : ι) :
    get? (drop map outer inner) outer inner = none := by
  unfold drop
  cases found : map.lookup outer with
  | none => simp [get?, found]
  | some below =>
    dsimp only
    split
    · simp [get?]
    · simp [get?]

/-- Dropping two keys leaves the others alone. -/
theorem get?_drop_of_ne (map : NestedMap κ ι ν) {another : ι}
    (differs : other = outer → another ≠ inner) :
    get? (drop map outer inner) other another = get? map other another := by
  unfold drop
  cases found : map.lookup outer with
  | none => rfl
  | some below =>
    dsimp only
    by_cases same : other = outer
    · subst same
      have apart : another ≠ inner := differs rfl
      have kept : (below.erase inner).lookup another = below.lookup another :=
        AList.lookup_erase_ne apart
      split
      · -- The inner map that is dropped had nothing but the two keys' value.
        rename_i none
        have empty : below.erase inner = ∅ := AList.ext (by simpa using none)
        simp only [get?, AList.lookup_erase, found, Option.bind_none, Option.bind_some]
        rw [← kept, empty]
        rfl
      · simp [get?, found, kept]
    · split
      · simp [get?, AList.lookup_erase_ne same]
      · simp [get?, AList.lookup_insert_ne same]

@[simp] theorem get?_erase_self (map : NestedMap κ ι ν) (outer : κ) (inner : ι) :
    get? (map.erase outer) outer inner = none := by
  simp [get?]

theorem get?_erase_of_ne (map : NestedMap κ ι ν) (differs : other ≠ outer) (inner : ι) :
    get? (map.erase outer) other inner = get? map other inner := by
  simp [get?, AList.lookup_erase_ne differs]

variable {map : NestedMap κ ι ν}

theorem mem_valuesOf {value : ν} (found : get? map outer inner = some value) :
    value ∈ valuesOf map outer := by
  obtain ⟨below, atOuter, atInner⟩ := Option.bind_eq_some_iff.mp found
  simp only [valuesOf, atOuter, Option.getD_some]
  exact List.mem_map.mpr ⟨⟨inner, value⟩, AList.mem_lookup_iff.mp atInner, rfl⟩

theorem mem_values {value : ν} (found : get? map outer inner = some value) :
    value ∈ values map := by
  obtain ⟨below, atOuter, atInner⟩ := Option.bind_eq_some_iff.mp found
  refine List.mem_flatMap.mpr ⟨⟨outer, below⟩, AList.mem_lookup_iff.mp atOuter, ?_⟩
  exact List.mem_map.mpr ⟨⟨inner, value⟩, AList.mem_lookup_iff.mp atInner, rfl⟩

end NestedMap

end Klura
