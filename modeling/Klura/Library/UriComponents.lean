import Klura.Library.FormUrlencoded

/-! Texts as parts of a URL: escaped, read back, and put together as the pairs of a query. -/

namespace Klura

/-- Bytes with an escape for each that is not kept. -/
def escapeBytes (kept : UInt8 → Bool) (bytes : Bytes) : Bytes :=
  bytes.flatMap fun byte => if kept byte then [byte] else percentEncode byte

/-- The bytes that a component keeps: letters, digits and some marks. -/
def isUnreserved (byte : UInt8) : Bool :=
  let code := byte.toNat
  decide (48 ≤ code ∧ code ≤ 57 ∨ 65 ≤ code ∧ code ≤ 90 ∨ 97 ≤ code ∧ code ≤ 122) ||
    [33, 39, 40, 41, 42, 45, 46, 95, 126].contains code

/-- The bytes of a text as a component of a URL. -/
def componentBytes (text : Units) : Bytes := escapeBytes isUnreserved (encodeUtf8 text)

/-- A text without half a pair as a component of a URL. -/
def encodeURIComponent (text : Units) : Units := (componentBytes text).map UInt8.toUInt16

/-- The pairs of a query, without the ones of empty sequences. -/
def formPairs (query : Units) : List (Units × Units) :=
  (((encodeUtf8 query).splitOn 38).filter fun sequence => !sequence.isEmpty).map fun sequence =>
    (formText (sequence.takeWhile fun byte => byte != 61),
      formText ((sequence.dropWhile fun byte => byte != 61).drop 1))

/-- The query that pairs make up, with their texts encoded. -/
def joinPairs (encode : Units → Bytes) (pairs : List (Units × Units)) : Units :=
  ([38].intercalate (pairs.map fun pair => encode pair.1 ++ 61 :: encode pair.2)).map
    UInt8.toUInt16

/-- The text of a query, with a question mark before one that is not empty. -/
def searchText (query : Units) : Units := if query = [] then [] else 63 :: query

/-- An encoding that a form reads back, and that has no mark of a form. -/
structure FormEncoding (encode : Units → Bytes) : Prop where
  reads : ∀ text, WellPaired text → formText (encode text) = text
  plain : ∀ text, ∀ byte ∈ encode text, byte.toNat < 0x80 ∧ byte ≠ 38 ∧ byte ≠ 61

variable {byte : UInt8}

theorem percentDecode_cons (plain : byte ≠ 37) (rest : Bytes) :
    percentDecode (byte :: rest) = byte :: percentDecode rest := by
  match rest with
  | [] => rfl
  | [_] => rfl
  | _ :: _ :: _ => rw [percentDecode, if_neg plain]

/-- An escape is read as its byte. -/
theorem percentDecode_escape (byte : UInt8) (rest : Bytes) :
    percentDecode (percentEncode byte ++ rest) = byte :: percentDecode rest := by
  have bound := byte.toNat_lt
  have high := hexValue_upperHex (show byte.toNat / 16 < 16 by omega)
  have low := hexValue_upperHex (show byte.toNat % 16 < 16 by omega)
  have whole : UInt8.ofNat (16 * (byte.toNat / 16) + byte.toNat % 16) = byte := by
    rw [Nat.div_add_mod]
    exact UInt8.ofNat_toNat
  rw [percentEncode, List.cons_append, List.cons_append, List.cons_append, List.nil_append,
    percentDecode]
  simp only [high, low, if_true, whole]

variable {kept : UInt8 → Bool}

/-- Escaped bytes are read back when the percent sign is escaped. -/
theorem percentDecode_escapeBytes (escaped : kept 37 = false) (bytes : Bytes) :
    percentDecode (escapeBytes kept bytes) = bytes := by
  induction bytes with
  | nil => rfl
  | cons byte rest ih =>
    unfold escapeBytes at ih ⊢
    rw [List.flatMap_cons]
    cases keeps : kept byte with
    | true =>
      have plain : byte ≠ 37 := by
        rintro rfl
        rw [escaped] at keeps
        exact absurd keeps (by simp)
      simp only [if_true, List.singleton_append, percentDecode_cons plain, ih]
    | false => simp only [Bool.false_eq_true, if_false, percentDecode_escape, ih]

/-- The bytes of escaped bytes are kept ones and those of escapes. -/
theorem mem_escapeBytes {bytes : Bytes} (member : byte ∈ escapeBytes kept bytes) :
    kept byte = true ∨ isEscapeCode byte.toNat := by
  obtain ⟨source, -, inside⟩ := List.mem_flatMap.mp member
  cases keeps : kept source with
  | true =>
    simp only [keeps, if_true, List.mem_singleton] at inside
    exact .inl (inside ▸ keeps)
  | false =>
    simp only [keeps, Bool.false_eq_true, if_false] at inside
    exact .inr (percentEncode_escape source byte inside)

/-- The codes that a component is made of. -/
theorem componentBytes_codes {text : Units} (member : byte ∈ componentBytes text) :
    33 ≤ byte.toNat ∧ byte.toNat < 0x7F ∧ byte.toNat ∉ [34, 35, 38, 43, 47, 60, 61, 62, 63, 92] := by
  rcases mem_escapeBytes member with kept | escape
  · have codes : ∀ byte : UInt8, isUnreserved byte = true → 33 ≤ byte.toNat ∧ byte.toNat < 0x7F ∧
        byte.toNat ∉ [34, 35, 38, 43, 47, 60, 61, 62, 63, 92] := by
      intro byte kept
      simp only [isUnreserved, Bool.or_eq_true, decide_eq_true_eq, List.contains_iff_mem] at kept
      simp only [List.mem_cons, List.not_mem_nil, or_false, not_or] at kept ⊢
      omega
    exact codes byte kept
  · unfold isEscapeCode at escape
    simp only [List.mem_cons, List.not_mem_nil, or_false, not_or]
    omega

/-- A form reads components back. -/
theorem componentBytes_form : FormEncoding componentBytes where
  reads text whole := by
    have plain : plusToSpace (componentBytes text) = componentBytes text := by
      unfold plusToSpace
      refine (List.map_congr_left fun byte member => if_neg ?_).trans (List.map_id' _)
      rintro rfl
      exact absurd (componentBytes_codes member) (by decide)
    rw [formText, plain, componentBytes, percentDecode_escapeBytes rfl]
    exact decodeUtf8_encodeUtf8 whole
  plain text byte member := by
    obtain ⟨-, small, apart⟩ := componentBytes_codes member
    refine ⟨by omega, ?_, ?_⟩ <;>
      · rintro rfl
        exact absurd apart (by decide)

section Pairs

variable {encode : Units → Bytes} {pairs : List (Units × Units)}

/-- The bytes that pairs are put together from. -/
theorem mem_joinedPairs {byte : UInt8} (member : byte ∈ [(38 : UInt8)].intercalate
      (pairs.map fun pair => encode pair.1 ++ 61 :: encode pair.2)) :
    byte = 38 ∨ byte = 61 ∨ ∃ text, byte ∈ encode text := by
  rcases intercalate_mem member with rfl | ⟨part, inside, among⟩
  · exact .inl rfl
  · obtain ⟨pair, -, rfl⟩ := List.mem_map.mp inside
    rcases List.mem_append.mp among with front | back
    · exact .inr (.inr ⟨_, front⟩)
    · rcases List.mem_cons.mp back with rfl | value
      · exact .inr (.inl rfl)
      · exact .inr (.inr ⟨_, value⟩)

/-- The pairs of a query that is made of pairs are these. -/
theorem formPairs_joinPairs (form : FormEncoding encode)
    (whole : ∀ pair ∈ pairs, WellPaired pair.1 ∧ WellPaired pair.2) :
    formPairs (joinPairs encode pairs) = pairs := by
  have bytes := encodeUtf8_ascii (@fun byte member => by
    rcases mem_joinedPairs member with rfl | rfl | ⟨text, inside⟩
    · decide
    · decide
    · exact (form.plain text byte inside).1 : ∀ byte ∈ [(38 : UInt8)].intercalate
      (pairs.map fun pair => encode pair.1 ++ 61 :: encode pair.2), byte.toNat < 0x80)
  unfold formPairs joinPairs
  rw [bytes]
  cases pairs with
  | nil => rfl
  | cons first rest =>
    have apart : ∀ part ∈ (first :: rest).map fun pair => encode pair.1 ++ 61 :: encode pair.2,
        (38 : UInt8) ∉ part := by
      intro part member inside
      obtain ⟨pair, -, rfl⟩ := List.mem_map.mp member
      rcases List.mem_append.mp inside with front | back
      · exact (form.plain _ _ front).2.1 rfl
      · exact (form.plain _ _ ((List.mem_cons.mp back).resolve_left (by decide))).2.1 rfl
    rw [List.splitOn_intercalate 38 apart (by simp)]
    rw [List.filter_eq_self.mpr fun part member => by
      obtain ⟨pair, -, rfl⟩ := List.mem_map.mp member
      simp]
    rw [List.map_map]
    -- The first equals sign of a sequence is the one between its name and its value.
    refine (List.map_congr_left fun pair member => ?_).trans (List.map_id _)
    have before : ∀ byte ∈ encode pair.1, (byte != 61) = true := fun byte inside => by
      simpa using (form.plain _ _ inside).2.2
    have stop : ((61 : UInt8) != 61) = false := rfl
    simp only [Function.comp_apply, List.takeWhile_append_of_pos before,
      List.dropWhile_append_of_pos before, List.takeWhile_cons, List.dropWhile_cons, stop,
      Bool.false_eq_true, if_false, List.append_nil, List.drop_succ_cons, List.drop_zero,
      form.reads _ (whole pair member).1, form.reads _ (whole pair member).2, id_eq]

end Pairs

end Klura
