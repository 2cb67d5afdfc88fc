import Klura.Library.CodeUnits
import Mathlib.Tactic.IntervalCases

/-! Bytes written as base64url without padding, and read back. -/

namespace Klura

/-- The symbol of a base64url digit. -/
def base64UrlSymbol (value : Nat) : UInt16 :=
  if value < 26 then UInt16.ofNat (65 + value)
  else if value < 52 then UInt16.ofNat (71 + value)
  else if value < 62 then UInt16.ofNat (value - 4)
  else if value = 62 then 45
  else 95

/-- The digit that a symbol of base64url stands for. -/
def base64UrlDigit (unit : UInt16) : Option Nat :=
  let code := unit.toNat
  if 65 ≤ code ∧ code ≤ 90 then some (code - 65)
  else if 97 ≤ code ∧ code ≤ 122 then some (code - 71)
  else if 48 ≤ code ∧ code ≤ 57 then some (code + 4)
  else if code = 45 then some 62
  else if code = 95 then some 63
  else none

/-- The digits of bytes, four for three of them. -/
def sextets : Bytes → List Nat
  | [] => []
  | [first] => [first.toNat / 4, first.toNat % 4 * 16]
  | [first, second] =>
    [first.toNat / 4, first.toNat % 4 * 16 + second.toNat / 16, second.toNat % 16 * 4]
  | first :: second :: third :: rest =>
    first.toNat / 4 :: (first.toNat % 4 * 16 + second.toNat / 16) ::
      (second.toNat % 16 * 4 + third.toNat / 64) :: third.toNat % 64 :: sextets rest

/-- The bytes of digits; bits that fill no byte are dropped. -/
def ofSextets : List Nat → Bytes
  | first :: second :: third :: fourth :: rest =>
    UInt8.ofNat (first * 4 + second / 16) :: UInt8.ofNat (second % 16 * 16 + third / 4) ::
      UInt8.ofNat (third % 4 * 64 + fourth) :: ofSextets rest
  | [first, second, third] =>
    [UInt8.ofNat (first * 4 + second / 16), UInt8.ofNat (second % 16 * 16 + third / 4)]
  | [first, second] => [UInt8.ofNat (first * 4 + second / 16)]
  | _ => []

/-- Bytes as base64url. -/
def encodeBase64Url (bytes : Bytes) : Units := (sextets bytes).map base64UrlSymbol

/-- The bytes of a base64url text; what is no symbol is skipped. -/
def decodeBase64Url (text : Units) : Bytes := ofSextets (text.filterMap base64UrlDigit)

/-- Whether a unit is a symbol of base64url. -/
def isBase64UrlUnit (unit : UInt16) : Bool := (base64UrlDigit unit).isSome

theorem base64UrlDigit_symbol {value : Nat} (small : value < 64) :
    base64UrlDigit (base64UrlSymbol value) = some value := by
  interval_cases value <;> rfl

/-- The digits of bytes are below sixty-four. -/
theorem sextets_small (bytes : Bytes) : ∀ value ∈ sextets bytes, value < 64 := by
  induction bytes using sextets.induct with
  | case1 => simp [sextets]
  | case2 first =>
    have bound := first.toNat_lt
    simp only [sextets, List.mem_cons, List.not_mem_nil, or_false, forall_eq_or_imp, forall_eq]
    omega
  | case3 first second =>
    have bound := first.toNat_lt
    have bound' := second.toNat_lt
    simp only [sextets, List.mem_cons, List.not_mem_nil, or_false, forall_eq_or_imp, forall_eq]
    omega
  | case4 first second third rest ih =>
    have bound := first.toNat_lt
    have bound' := second.toNat_lt
    have bound'' := third.toNat_lt
    simp only [sextets, List.mem_cons, forall_eq_or_imp]
    exact ⟨by omega, by omega, by omega, by omega, ih⟩

theorem ofNat_toNat_of_eq {byte : UInt8} {value : Nat} (same : value = byte.toNat) :
    UInt8.ofNat value = byte := by
  rw [same, UInt8.ofNat_toNat]

/-- The digits of bytes stand for them. -/
theorem ofSextets_sextets (bytes : Bytes) : ofSextets (sextets bytes) = bytes := by
  induction bytes using sextets.induct with
  | case1 => rfl
  | case2 first =>
    have whole : UInt8.ofNat (first.toNat / 4 * 4 + first.toNat % 4 * 16 / 16) = first :=
      ofNat_toNat_of_eq (by omega)
    simp only [sextets, ofSextets, whole]
  | case3 first second =>
    have bound := second.toNat_lt
    have whole : UInt8.ofNat (first.toNat / 4 * 4 +
        (first.toNat % 4 * 16 + second.toNat / 16) / 16) = first :=
      ofNat_toNat_of_eq (by omega)
    have whole' : UInt8.ofNat ((first.toNat % 4 * 16 + second.toNat / 16) % 16 * 16 +
        second.toNat % 16 * 4 / 4) = second :=
      ofNat_toNat_of_eq (by omega)
    simp only [sextets, ofSextets, whole, whole']
  | case4 first second third rest ih =>
    have bound := second.toNat_lt
    have bound' := third.toNat_lt
    have whole : UInt8.ofNat (first.toNat / 4 * 4 +
        (first.toNat % 4 * 16 + second.toNat / 16) / 16) = first :=
      ofNat_toNat_of_eq (by omega)
    have whole' : UInt8.ofNat ((first.toNat % 4 * 16 + second.toNat / 16) % 16 * 16 +
        (second.toNat % 16 * 4 + third.toNat / 64) / 4) = second :=
      ofNat_toNat_of_eq (by omega)
    have whole'' : UInt8.ofNat ((second.toNat % 16 * 4 + third.toNat / 64) % 4 * 64 +
        third.toNat % 64) = third :=
      ofNat_toNat_of_eq (by omega)
    simp only [sextets, ofSextets, whole, whole', whole'', ih]

/-- What was written as base64url is read back. -/
theorem decodeBase64Url_encode (bytes : Bytes) : decodeBase64Url (encodeBase64Url bytes) = bytes := by
  have digits : ∀ values : List Nat, (∀ value ∈ values, value < 64) →
      (values.map base64UrlSymbol).filterMap base64UrlDigit = values := by
    intro values small
    induction values with
    | nil => rfl
    | cons value rest ih =>
      rw [List.map_cons, List.filterMap_cons_some (base64UrlDigit_symbol (small value (by simp))),
        ih fun other member => small other (by simp [member])]
  rw [decodeBase64Url, encodeBase64Url, digits _ (sextets_small bytes), ofSextets_sextets]

theorem encodeBase64Url_units (bytes : Bytes) :
    ∀ unit ∈ encodeBase64Url bytes, isBase64UrlUnit unit = true := by
  intro unit member
  obtain ⟨value, inside, rfl⟩ := List.mem_map.mp member
  simp [isBase64UrlUnit, base64UrlDigit_symbol (sextets_small bytes value inside)]

/-- A symbol of base64url is one byte. -/
theorem isBase64UrlUnit_small {unit : UInt16} (symbol : isBase64UrlUnit unit = true) :
    unit.toNat < 0x80 := by
  unfold isBase64UrlUnit base64UrlDigit at symbol
  dsimp only at symbol
  by_contra large
  rw [if_neg (by omega), if_neg (by omega), if_neg (by omega), if_neg (by omega),
    if_neg (by omega)] at symbol
  exact absurd symbol (by simp)

/-- Base64url takes four symbols for three bytes, and one more than the bytes that are left. -/
theorem encodeBase64Url_length (bytes : Bytes) : (encodeBase64Url bytes).length =
    bytes.length / 3 * 4 + if bytes.length % 3 = 0 then 0 else bytes.length % 3 + 1 := by
  rw [encodeBase64Url, List.length_map]
  induction bytes using sextets.induct with
  | case1 => rfl
  | case2 first => simp [sextets]
  | case3 first second => simp [sextets]
  | case4 first second third rest ih =>
    simp only [sextets, List.length_cons, ih]
    have groups : (rest.length + 1 + 1 + 1) / 3 = rest.length / 3 + 1 := by omega
    have left : (rest.length + 1 + 1 + 1) % 3 = rest.length % 3 := by omega
    rw [groups, left]
    split <;> omega

end Klura
