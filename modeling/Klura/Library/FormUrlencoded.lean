import Klura.Library.Utf8
import Mathlib.Data.List.TakeWhile

/-! The keys of a query string, as form-urlencoded text is decoded. -/

namespace Klura

/-- The value of a hexadecimal digit, in upper or lower case. -/
def hexValue (byte : UInt8) : Option Nat :=
  let code := byte.toNat
  if 48 ≤ code ∧ code ≤ 57 then some (code - 48)
  else if 65 ≤ code ∧ code ≤ 70 then some (code - 55)
  else if 97 ≤ code ∧ code ≤ 102 then some (code - 87)
  else none

/-- The bytes that percent-encoded bytes stand for. -/
def percentDecode : Bytes → Bytes
  | [] => []
  | [first] => [first]
  | [first, second] => [first, second]
  | first :: second :: third :: rest =>
    if first = 37 then
      match hexValue second, hexValue third with
      | some high, some low => UInt8.ofNat (16 * high + low) :: percentDecode rest
      | _, _ => first :: percentDecode (second :: third :: rest)
    else first :: percentDecode (second :: third :: rest)

/-- Bytes with each plus sign read as a space. -/
def plusToSpace (bytes : Bytes) : Bytes := bytes.map fun byte => if byte = 43 then 32 else byte

/-- What one name or value of a form is read as. -/
def formText (bytes : Bytes) : Units := decodeUtf8 (percentDecode (plusToSpace bytes))

/-- The keys of a query, without the ones of empty sequences. -/
def formKeys (query : Units) : List Units :=
  (((encodeUtf8 query).splitOn 38).filter fun sequence => !sequence.isEmpty).map fun sequence =>
    formText (sequence.takeWhile fun byte => byte != 61)

/-- The upper-case hexadecimal digit of a number below sixteen. -/
def upperHex (value : Nat) : UInt8 := UInt8.ofNat (if value < 10 then 48 + value else 55 + value)

/-- The escape of a byte. -/
def percentEncode (byte : UInt8) : Bytes :=
  [37, upperHex (byte.toNat / 16), upperHex (byte.toNat % 16)]

/-- A key with every byte escaped. -/
def keyText (key : Units) : Bytes := (encodeUtf8 key).flatMap percentEncode

/-- A query whose keys are these. -/
def queryOf (keys : List Units) : Units :=
  ([38].intercalate (keys.map keyText)).map UInt8.toUInt16

theorem hexValue_upperHex {value : Nat} (small : value < 16) :
    hexValue (upperHex value) = some value := by
  have each : ∀ value : Fin 16, hexValue (upperHex value.val) = some value.val := by decide
  exact each ⟨value, small⟩

/-- The codes of the units that escapes are made of: the percent sign and hexadecimal digits. -/
def isEscapeCode (code : Nat) : Prop := code = 37 ∨ 48 ≤ code ∧ code ≤ 57 ∨ 65 ≤ code ∧ code ≤ 70

theorem upperHex_escape {value : Nat} (small : value < 16) :
    isEscapeCode (upperHex value).toNat := by
  unfold upperHex isEscapeCode
  rw [UInt8.toNat_ofNat']
  split <;> omega

/-- The bytes of an escape. -/
theorem percentEncode_escape (byte : UInt8) : ∀ unit ∈ percentEncode byte,
    isEscapeCode unit.toNat := by
  have bound := byte.toNat_lt
  intro unit member
  simp only [percentEncode, List.mem_cons, List.not_mem_nil, or_false] at member
  rcases member with rfl | rfl | rfl
  · exact .inl rfl
  · exact upperHex_escape (by omega)
  · exact upperHex_escape (by omega)

theorem keyText_escape (key : Units) : ∀ unit ∈ keyText key, isEscapeCode unit.toNat := by
  intro unit member
  obtain ⟨byte, -, inside⟩ := List.mem_flatMap.mp member
  exact percentEncode_escape byte unit inside

/-- The bytes of an escaped key are no marks of a form. -/
theorem keyText_plain (key : Units) : ∀ unit ∈ keyText key, unit ≠ 43 ∧ unit ≠ 38 ∧ unit ≠ 61 := by
  intro unit member
  have escape := keyText_escape key unit member
  unfold isEscapeCode at escape
  refine ⟨?_, ?_, ?_⟩ <;>
    · rintro rfl
      simp at escape

/-- Escaped bytes are read back. -/
theorem percentDecode_encode (bytes : Bytes) :
    percentDecode (bytes.flatMap percentEncode) = bytes := by
  induction bytes with
  | nil => rfl
  | cons byte rest ih =>
    have bound := byte.toNat_lt
    have high := hexValue_upperHex (show byte.toNat / 16 < 16 by omega)
    have low := hexValue_upperHex (show byte.toNat % 16 < 16 by omega)
    have whole : UInt8.ofNat (16 * (byte.toNat / 16) + byte.toNat % 16) = byte := by
      rw [Nat.div_add_mod]
      exact UInt8.ofNat_toNat
    rw [List.flatMap_cons, percentEncode, List.cons_append, List.cons_append, List.cons_append,
      List.nil_append, percentDecode]
    simp only [high, low, if_true, whole, ih]

/-- An escaped key is read back. -/
theorem formText_keyText {key : Units} (whole : WellPaired key) :
    formText (keyText key) = key := by
  have plain : plusToSpace (keyText key) = keyText key := by
    unfold plusToSpace
    rw [List.map_congr_left fun byte member => if_neg (keyText_plain key byte member).1]
    exact List.map_id' _
  unfold formText
  rw [plain, keyText, percentDecode_encode]
  exact decodeUtf8_encodeUtf8 whole

/-- Bytes below the continuation bytes are the bytes of the text that they spell. -/
theorem encodeUtf8_ascii {bytes : Bytes} (small : ∀ byte ∈ bytes, byte.toNat < 0x80) :
    encodeUtf8 (bytes.map UInt8.toUInt16) = bytes := by
  induction bytes with
  | nil => rfl
  | cons byte rest ih =>
    have below := small byte (by simp)
    have later := ih fun other member => small other (by simp [member])
    have wide : byte.toUInt16.toNat = byte.toNat := UInt8.toNat_toUInt16 byte
    have high : isHighSurrogate byte.toUInt16 = false := decide_eq_false (by omega)
    have one : (CodePoint.single byte.toUInt16).bytes = [byte] := by
      rw [CodePoint.bytes, unitBytes, wide, if_pos below, UInt8.ofNat_toNat]
    have points : codePoints (byte.toUInt16 :: rest.map UInt8.toUInt16) =
        .single byte.toUInt16 :: codePoints (rest.map UInt8.toUInt16) := by
      cases rest with
      | nil => rfl
      | cons next rest => simp [codePoints, high]
    unfold encodeUtf8 at later ⊢
    rw [List.map_cons, points, List.flatMap_cons, one, later]
    rfl

/-- A byte of keys with separators between them is of a key or a separator. -/
theorem intercalate_mem {parts : List Bytes} {separator byte : UInt8}
    (member : byte ∈ [separator].intercalate parts) :
    byte = separator ∨ ∃ part ∈ parts, byte ∈ part := by
  induction parts with
  | nil => cases member
  | cons part rest ih =>
    cases rest with
    | nil =>
      rw [List.intercalate_singleton] at member
      exact .inr ⟨part, by simp, member⟩
    | cons next rest =>
      rw [List.intercalate_cons_cons, List.append_assoc, List.mem_append, List.mem_append,
        List.mem_singleton] at member
      rcases member with own | mark | later
      · exact .inr ⟨part, by simp, own⟩
      · exact .inl mark
      · rcases ih later with mark | ⟨other, inside, own⟩
        · exact .inl mark
        · exact .inr ⟨other, List.mem_cons_of_mem _ inside, own⟩

/-- The bytes of a query that is made of keys are of escapes, but for the separators. -/
theorem queryBytes_escape (keys : List Units) :
    ∀ byte ∈ [38].intercalate (keys.map keyText), byte.toNat = 38 ∨ isEscapeCode byte.toNat := by
  intro byte member
  rcases intercalate_mem member with rfl | ⟨part, inside, own⟩
  · exact .inl rfl
  · obtain ⟨key, -, rfl⟩ := List.mem_map.mp inside
    exact .inr (keyText_escape key byte own)

theorem queryOf_escape (keys : List Units) :
    ∀ unit ∈ queryOf keys, unit.toNat = 38 ∨ isEscapeCode unit.toNat := by
  intro unit member
  obtain ⟨byte, inside, rfl⟩ := List.mem_map.mp member
  rw [UInt8.toNat_toUInt16]
  exact queryBytes_escape keys byte inside

/-- A key that is not empty has an escape. -/
theorem keyText_ne_nil {key : Units} (named : key ≠ []) : keyText key ≠ [] := by
  have bytes : encodeUtf8 key ≠ [] := by
    intro none
    have points : codePoints key ≠ [] := by
      intro none
      have units := codePoints_units key
      rw [none] at units
      exact named units.symm
    obtain ⟨point, rest, same⟩ := List.exists_cons_of_ne_nil points
    have empty : point.bytes = [] := by
      rw [encodeUtf8, same, List.flatMap_cons] at none
      exact (List.append_eq_nil_iff.mp none).1
    have length := point.bytes_length
    rw [empty] at length
    cases point with
    | pair high low => cases length
    | single unit =>
      simp only [CodePoint.utf8Length, List.length_nil] at length
      split_ifs at length
  obtain ⟨byte, rest, same⟩ := List.exists_cons_of_ne_nil bytes
  rw [keyText, same, List.flatMap_cons]
  exact List.append_ne_nil_of_left_ne_nil (List.cons_ne_nil _ _) _

theorem formKeys_wellPaired (query : Units) : ∀ key ∈ formKeys query, WellPaired key := by
  intro key member
  obtain ⟨sequence, -, rfl⟩ := List.mem_map.mp member
  exact decodeUtf8_wellPaired _

/-- The keys of a query that is made of keys are these. -/
theorem formKeys_queryOf {keys : List Units} (whole : ∀ key ∈ keys, WellPaired key)
    (named : ∀ key ∈ keys, key ≠ []) : formKeys (queryOf keys) = keys := by
  have bytes : encodeUtf8 (queryOf keys) = [38].intercalate (keys.map keyText) :=
    encodeUtf8_ascii fun byte member => by
      have escape := queryBytes_escape keys byte member
      unfold isEscapeCode at escape
      omega
  unfold formKeys
  rw [bytes]
  cases keys with
  | nil => rfl
  | cons key rest =>
    have apart : ∀ part ∈ (key :: rest).map keyText, (38 : UInt8) ∉ part := by
      intro part member inside
      obtain ⟨other, -, rfl⟩ := List.mem_map.mp member
      exact (keyText_plain other 38 inside).2.1 rfl
    rw [List.splitOn_intercalate 38 apart (by simp)]
    -- No part is empty, and none has an equals sign to stop at.
    have kept : ((key :: rest).map keyText).filter (fun sequence => !sequence.isEmpty) =
        (key :: rest).map keyText := by
      rw [List.filter_eq_self]
      intro part member
      obtain ⟨other, inside, rfl⟩ := List.mem_map.mp member
      simpa using keyText_ne_nil (named other inside)
    have read : ∀ other ∈ key :: rest,
        formText ((keyText other).takeWhile fun byte => byte != 61) = other := by
      intro other inside
      have all : (keyText other).takeWhile (fun byte => byte != 61) = keyText other := by
        rw [List.takeWhile_eq_self_iff]
        intro byte member
        simpa using (keyText_plain other byte member).2.2
      rw [all, formText_keyText (whole other inside)]
    rw [kept, List.map_map]
    exact (List.map_congr_left read).trans (List.map_id _)

end Klura
