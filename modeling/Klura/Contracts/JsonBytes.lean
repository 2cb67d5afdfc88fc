import Klura.Journal.Event
import Mathlib.Algebra.BigOperators.Group.List.Basic

/-! The bytes of canonical texts: what each part of a value adds to them. -/

namespace Klura

theorem utf8_ofList (chars : List Char) :
    utf8 (String.ofList chars) = chars.flatMap String.utf8EncodeChar := by
  simp [utf8, String.toUTF8, List.utf8Encode]

theorem utf8_ofList_length (chars : List Char) :
    (utf8 (String.ofList chars)).length ≤ 4 * chars.length := by
  rw [utf8_ofList]
  induction chars with
  | nil => simp
  | cons char rest ih =>
    have wide := char.utf8Size_le_four
    rw [List.flatMap_cons, List.length_append, String.length_utf8EncodeChar, List.length_cons]
    omega

/-- The bytes of a JSON string between its marks. -/
def escapedBytes (text : Bytes) : Nat := (text.flatMap escapeByte).length

theorem stringText_length (text : Bytes) : (stringText text).length = escapedBytes text + 2 := by
  simp [stringText, escapedBytes]

theorem hexDigits_length (width value : Nat) (text : Bytes) :
    (hexDigits width value text).length = width + text.length := by
  induction width generalizing value text with
  | zero => simp [hexDigits]
  | succ width ih =>
    rw [hexDigits, ih, List.length_cons]
    omega

theorem escapeControl_length (code : Nat) : (escapeControl code).length ≤ 6 := by
  unfold escapeControl
  split
  · decide
  · decide
  · decide
  · decide
  · decide
  · rw [List.length_append, hexDigits_length]
    decide

theorem escapeByte_length (byte : UInt8) :
    (escapeByte byte).length ≤ 6 ∧ (32 ≤ byte.toNat → (escapeByte byte).length ≤ 2) := by
  unfold escapeByte
  dsimp only
  split
  · rename_i control
    exact ⟨escapeControl_length _, fun printed => absurd control (by omega)⟩
  · split <;> simp

theorem escapedBytes_le (text : Bytes) : escapedBytes text ≤ 6 * text.length := by
  unfold escapedBytes
  induction text with
  | nil => simp
  | cons byte rest ih =>
    have first := (escapeByte_length byte).1
    rw [List.flatMap_cons, List.length_append, List.length_cons]
    omega

theorem joinText_length (separator : UInt8) (texts : List Bytes) :
    (joinText [separator] texts).length = (texts.map List.length).sum + (texts.length - 1) := by
  induction texts with
  | nil => rfl
  | cons first rest ih =>
    cases rest with
    | nil => simp [joinText]
    | cons second rest =>
      rw [joinText, List.length_append, List.length_append, ih]
      simp only [List.map_cons, List.sum_cons, List.length_cons, List.length_nil]
      omega

theorem canonicalEntries_eq (entries : List (String × JsonValueV1)) :
    canonicalEntries entries = entries.map fun entry => (entry.1, canonicalJson entry.2) := by
  induction entries with
  | nil => rfl
  | cons entry rest ih => rw [canonicalEntries, ih, List.map_cons]

/-- The bytes of an object entry: of its key, its colon and its value. -/
def memberBytes (entry : String × JsonValueV1) : Nat :=
  escapedBytes (utf8 entry.1) + 3 + canonicalBytes entry.2

theorem canonicalBytes_object (entries : List (String × JsonValueV1)) :
    canonicalBytes (.object entries) =
      2 + ((entries.map memberBytes).sum + (entries.length - 1)) := by
  have perm : ((sortEntries (canonicalEntries entries)).map entryText).Perm
      (entries.map fun entry => entryText (entry.1, canonicalJson entry.2)) := by
    have sorted := (List.perm_insertionSort (fun left right : String × Bytes =>
      compareJsonKeys left.1 right.1) (canonicalEntries entries)).map entryText
    rw [canonicalEntries_eq, List.map_map] at sorted
    rw [canonicalEntries_eq]
    exact sorted
  have bytes : ∀ entry : String × JsonValueV1,
      (entryText (entry.1, canonicalJson entry.2)).length = memberBytes entry := by
    intro entry
    rw [entryText, List.length_append, stringText_length, memberBytes, canonicalBytes,
      List.length_cons]
    dsimp only
    omega
  rw [canonicalBytes, canonicalJson, List.cons_append, List.length_cons, List.length_append,
    joinText_length, (perm.map List.length).sum_eq, perm.length_eq, List.map_map, List.length_map]
  have sum : (entries.map (List.length ∘ fun entry => entryText (entry.1, canonicalJson entry.2)))
      = entries.map memberBytes := List.map_congr_left fun entry _ => bytes entry
  rw [sum]
  simp only [List.length_cons, List.length_nil]
  omega

theorem canonicalBytes_array (items : List JsonValueV1) :
    canonicalBytes (.array items) = 2 + ((items.map canonicalBytes).sum + (items.length - 1)) := by
  have texts : canonicalItems items = items.map canonicalJson := by
    induction items with
    | nil => rfl
    | cons item rest ih => rw [canonicalItems, ih, List.map_cons]
  rw [canonicalBytes, canonicalJson, List.cons_append, List.length_cons, List.length_append,
    joinText_length, texts, List.map_map, List.length_map]
  have sum : items.map (List.length ∘ canonicalJson) = items.map canonicalBytes := rfl
  rw [sum]
  simp only [List.length_cons, List.length_nil]
  omega

theorem canonicalBytes_string (text : Bytes) :
    canonicalBytes (.string text) = escapedBytes text + 2 := by
  rw [canonicalBytes, canonicalJson, stringText_length]

theorem normalize_bounds (fuel coefficient : Nat) (exponent : Int) :
    (JsonNumber.normalize fuel coefficient exponent).1 ≤ coefficient ∧
      exponent ≤ (JsonNumber.normalize fuel coefficient exponent).2 ∧
      (0 < coefficient →
        10 ^ ((JsonNumber.normalize fuel coefficient exponent).2 - exponent).toNat ≤
          coefficient) := by
  induction fuel generalizing coefficient exponent with
  | zero => simp [JsonNumber.normalize]; omega
  | succ fuel ih =>
    rw [JsonNumber.normalize]
    split
    · rename_i moved
      obtain ⟨less, later, power⟩ := ih (coefficient / 10) (exponent + 1)
      have tenth : 0 < coefficient / 10 := by omega
      refine ⟨by omega, by omega, fun _ => ?_⟩
      -- One zero more was moved than from the tenth part.
      have steps : ((JsonNumber.normalize fuel (coefficient / 10) (exponent + 1)).2
          - exponent).toNat = ((JsonNumber.normalize fuel (coefficient / 10) (exponent + 1)).2
          - (exponent + 1)).toNat + 1 := by omega
      have part := power tenth
      rw [steps, Nat.pow_succ]
      omega
    · simp
      omega

theorem digits_length {value count : Nat} (some : 0 < count) (small : value < 10 ^ count) :
    (JsonNumber.digits value).length ≤ count := by
  rw [JsonNumber.digits, List.length_map]
  exact (Nat.length_toDigits_le_iff (by decide) some).mpr small

/-- An integer of at most sixteen digits takes at most thirty-six bytes. -/
theorem natValue_bytes {value : Nat} (safe : value ≤ JsonNumber.maxSafeInteger) :
    canonicalBytes (natValue value) ≤ 36 := by
  have small : value < 10 ^ 16 := lt_of_le_of_lt safe (by decide)
  rw [canonicalBytes, natValue, canonicalJson, JsonNumber.text]
  have same : (JsonNumber.ofInt value).coefficient.natAbs = value := Int.natAbs_natCast value
  have exponent : (JsonNumber.ofInt value).exponent = 0 := rfl
  have sign : ¬(JsonNumber.ofInt value).coefficient < 0 := Int.not_lt.mpr (Int.natCast_nonneg value)
  simp only [same, exponent, sign, if_false, List.nil_append]
  obtain ⟨less, later, power⟩ := normalize_bounds value value 0
  by_cases zero : (JsonNumber.normalize value value 0).1 = 0
  · rw [if_pos zero]
    decide
  rw [if_neg zero]
  have digits : (JsonNumber.digits (JsonNumber.normalize value value 0).1).length ≤ 16 :=
    digits_length (by decide) (less.trans_lt small)
  -- The moved zeros are no more than the digits of the number.
  have zeros : (JsonNumber.normalize value value 0).2.toNat < 16 := by
    have positive : 0 < value := by omega
    have bound := (power positive).trans_lt small
    rw [Int.sub_zero] at bound
    exact (Nat.pow_lt_pow_iff_right (by decide)).mp bound
  split
  · rw [List.length_append, List.length_replicate]
    omega
  · split
    · have mark : (utf8 ".").length = 1 := by decide
      simp only [List.length_append, List.length_take, List.length_drop, mark]
      omega
    · split
      · have mark : (utf8 "0.").length = 2 := by decide
        simp only [List.length_append, List.length_replicate, mark]
        omega
      · have mark : (utf8 ".").length = 1 ∧ (utf8 "e-").length = 2 ∧ (utf8 "e+").length = 2 := by
          decide
        have power : (JsonNumber.digits ((((JsonNumber.digits
            (JsonNumber.normalize value value 0).1).length : Int) +
              (JsonNumber.normalize value value 0).2) - 1).natAbs).length ≤ 2 :=
          digits_length (by decide) (by omega)
        -- One digit stands before the point, the others behind it.
        simp only [List.length_append, List.length_take, apply_ite List.length, List.length_drop,
          mark, List.length_nil]
        split_ifs
        all_goals omega

end Klura
