import Klura.Contracts.CanonicalText
import Klura.Library.Utf8

/-! The bytes of canonical texts: they are well paired, and the bytes of their parts add up. -/

namespace Klura

/-- Whether every code unit of a text takes one byte. -/
def OneByteUnits (text : Units) : Prop := ∀ unit ∈ text, unit.toNat < 0x80

instance (text : Units) : Decidable (OneByteUnits text) :=
  List.decidableBAll _ text

namespace OneByteUnits

theorem nil : OneByteUnits [] := nofun

theorem cons {unit : UInt16} {text : Units} (small : unit.toNat < 0x80)
    (rest : OneByteUnits text) : OneByteUnits (unit :: text) := by
  intro other member
  rcases List.mem_cons.mp member with rfl | later
  · exact small
  · exact rest other later

theorem append {front back : Units} (first : OneByteUnits front) (second : OneByteUnits back) :
    OneByteUnits (front ++ back) := by
  intro other member
  rcases List.mem_append.mp member with early | late
  · exact first other early
  · exact second other late

theorem wellPaired {text : Units} (small : OneByteUnits text) : WellPaired text :=
  .of_small fun unit member => (small unit member).trans (by decide)

theorem digits (row : List Digit) : OneByteUnits (digitsText row) := by
  intro unit member
  obtain ⟨digit, -, rfl⟩ := List.mem_map.mp member
  have bound := digit.isLt
  rw [Digit.unit, UInt16.toNat_ofNat']
  omega

theorem numeral (numeral : Numeral) : OneByteUnits numeral.text := by
  have fraction : OneByteUnits numeral.fractionText := by
    unfold Numeral.fractionText
    split
    · exact nil
    · exact cons (by decide) (digits _)
  have exponent : OneByteUnits numeral.exponentText := by
    unfold Numeral.exponentText
    split
    · exact nil
    · rename_i part _
      unfold ExponentPart.text
      apply cons
      · split <;> decide
      · refine append ?_ (digits _)
        split
        · exact nil
        · split
          · exact cons (by decide) nil
          · exact cons (by decide) nil
  unfold Numeral.text
  refine append ?_ (append (digits _) (append fraction exponent))
  split
  · exact cons (by decide) nil
  · exact nil

end OneByteUnits

theorem WellPaired.length_append (front : Units) {back : Units} (second : WellPaired back) :
    utf8Length (front ++ back) = utf8Length front + utf8Length back :=
  utf8Length_append front back second.head

theorem WellPaired.length_cons {unit : UInt16} (small : unit.toNat < 0x80) {back : Units}
    (second : WellPaired back) : utf8Length (unit :: back) = 1 + utf8Length back := by
  have split := second.length_append [unit]
  rw [List.singleton_append] at split
  rw [split, utf8Length_ascii (OneByteUnits.cons small .nil)]
  rfl

namespace StrictJson

theorem hexDigit_small (digit : HexDigit) : digit.unit.toNat < 0x80 := by
  have bound := digit.value.isLt
  unfold HexDigit.unit
  split
  · rw [UInt16.toNat_ofNat']
    omega
  · rw [UInt16.toNat_ofNat']
    split <;> omega

theorem unicodeEscape_small (unit : UInt16) : OneByteUnits (unicodeEscape unit).text := by
  unfold unicodeEscape Piece.text
  exact .cons (by decide) (.cons (by decide) (.cons (hexDigit_small _) (.cons (hexDigit_small _)
    (.cons (hexDigit_small _) (.cons (hexDigit_small _) .nil)))))

/-- A character is written as a well-paired text of at most six bytes. -/
theorem quotePoint_text (point : CodePoint)
    (paired : ∀ high low, point = .pair high low →
      isHighSurrogate high = true ∧ isLowSurrogate low = true) :
    WellPaired ((quotePoint point).flatMap Piece.text) ∧
      utf8Length ((quotePoint point).flatMap Piece.text) ≤ 6 := by
  have small {text : Units} (units : OneByteUnits text) (few : text.length ≤ 6) :
      WellPaired text ∧ utf8Length text ≤ 6 :=
    ⟨units.wellPaired, by rw [utf8Length_ascii units]; exact few⟩
  cases point with
  | pair high low =>
    obtain ⟨first, second⟩ := paired high low rfl
    -- Both halves stand for themselves, so they still pair.
    have upper : 0xD800 ≤ high.toNat ∧ high.toNat < 0xDC00 := of_decide_eq_true first
    have lower : 0xDC00 ≤ low.toNat ∧ low.toNat < 0xE000 := of_decide_eq_true second
    have plain {unit : UInt16} (large : 0xD800 ≤ unit.toNat) :
        (plainUnit unit).text = [unit] := by
      have apart (other : UInt16) (small : other.toNat < 0xD800) : (unit != other) = true := by
        rw [bne_iff_ne]
        rintro rfl
        omega
      have allowed : isPlain unit = true := by
        simp only [isPlain, apart 34 (by decide), apart 92 (by decide), Bool.and_true]
        exact decide_eq_true (by omega)
      rw [plainUnit, dif_pos allowed]
      rfl
    have text : (quotePoint (.pair high low)).flatMap Piece.text = [high, low] := by
      simp [quotePoint, plain upper.1, plain (show 0xD800 ≤ low.toNat by omega)]
    have points : codePoints [high, low] = [.pair high low] := by
      simp [codePoints, first, second]
    rw [text]
    constructor
    · intro point member
      rw [points, List.mem_singleton] at member
      subst member
      rfl
    · simp [utf8Length, points, CodePoint.utf8Length]
  | single unit =>
    have text : (quotePoint (.single unit)).flatMap Piece.text = (quoteUnit unit).text := by
      simp [quotePoint]
    rw [text]
    have short (escape : ShortEscape) :
        WellPaired (Piece.short escape).text ∧ utf8Length (Piece.short escape).text ≤ 6 := by
      refine small ?_ (by simp [Piece.text])
      exact .cons (by decide) (.cons (by cases escape <;> decide) .nil)
    unfold quoteUnit
    split_ifs with backspace tab feed form carriage quotation backslash lone
    · exact short _
    · exact short _
    · exact short _
    · exact short _
    · exact short _
    · exact short _
    · exact short _
    · exact small (unicodeEscape_small unit) (by simp [unicodeEscape, Piece.text])
    · unfold plainUnit
      split
      · simp only [Bool.or_eq_true, not_or, Bool.not_eq_true] at lone
        constructor
        · exact .cons lone.1 lone.2 .nil
        · simp only [Piece.text, utf8Length, codePoints, List.map_cons, List.map_nil,
            List.sum_cons, List.sum_nil, CodePoint.utf8Length]
          split_ifs <;> decide
      · exact small (unicodeEscape_small unit) (by simp [unicodeEscape, Piece.text])

theorem stringText_bytes (text : Units) : WellPaired (stringText text) ∧
    2 ≤ utf8Length (stringText text) ∧
    utf8Length (stringText text) ≤ 2 + 6 * (codePoints text).length := by
  have points : ∀ points : List CodePoint, (∀ high low, CodePoint.pair high low ∈ points →
        isHighSurrogate high = true ∧ isLowSurrogate low = true) →
      WellPaired ((points.flatMap quotePoint).flatMap Piece.text) ∧
        utf8Length ((points.flatMap quotePoint).flatMap Piece.text) ≤ 6 * points.length := by
    intro points
    induction points with
    | nil => exact fun _ => ⟨.nil, Nat.le_refl _⟩
    | cons point rest ih =>
      intro paired
      obtain ⟨whole, few⟩ := ih fun high low member => paired high low (by simp [member])
      obtain ⟨first, bytes⟩ := quotePoint_text point fun high low same =>
        paired high low (by simp [same])
      rw [List.flatMap_cons, List.flatMap_append, whole.length_append, List.length_cons]
      exact ⟨first.append whole, by omega⟩
  obtain ⟨whole, few⟩ := points (codePoints text) (codePoints_paired text)
  have closing : WellPaired [34] := .cons (by decide) (by decide) .nil
  have inside := whole.append closing
  unfold stringText StringSyntax.text quoteString
  rw [inside.length_cons (by decide), closing.length_append]
  have mark : utf8Length [34] = 1 := by decide
  exact ⟨.cons (by decide) (by decide) inside, by omega, by omega⟩

theorem joinComma_bytes {texts : List Units} (whole : ∀ text ∈ texts, WellPaired text) :
    WellPaired (joinComma texts) ∧
      utf8Length (joinComma texts) = (texts.map utf8Length).sum + (texts.length - 1) := by
  induction texts with
  | nil => exact ⟨.nil, rfl⟩
  | cons first rest ih =>
    obtain ⟨later, bytes⟩ := ih fun text member => whole text (by simp [member])
    have begins := whole first (by simp)
    cases rest with
    | nil => exact ⟨begins, by simp [joinComma]⟩
    | cons second rest =>
      have comma : WellPaired (44 :: joinComma (second :: rest)) :=
        .cons (by decide) (by decide) later
      rw [joinComma, comma.length_append, later.length_cons (by decide), bytes]
      refine ⟨begins.append comma, ?_⟩
      simp only [List.map_cons, List.sum_cons, List.length_cons]
      omega

/-- The bytes of the canonical text of a value. -/
def canonicalBytes (value : JsValue) : Nat := utf8Length (syntaxOf value).text

theorem codePoints_length (text : Units) : (codePoints text).length ≤ text.length := by
  induction text using codePoints.induct with
  | case1 => exact Nat.le_refl _
  | case2 unit => exact Nat.le_refl _
  | case3 first second rest paired ih =>
    rw [codePoints, if_pos paired]
    simp only [List.length_cons]
    omega
  | case4 first second rest unpaired ih =>
    rw [codePoints, if_neg unpaired]
    simp only [List.length_cons] at ih ⊢
    omega

theorem canonicalBytes_string (text : Units) :
    canonicalBytes (.string text) ≤ 2 + 6 * text.length := by
  have bytes := (stringText_bytes text).2.2
  have points := codePoints_length text
  have written : canonicalBytes (.string text) = utf8Length (stringText text) := rfl
  omega

theorem entryText_bytes (key : Units) {value : Units} (whole : WellPaired value) :
    WellPaired (entryText key value) ∧
      utf8Length (entryText key value) = utf8Length (stringText key) + 1 + utf8Length value := by
  have colon : WellPaired (58 :: value) := .cons (by decide) (by decide) whole
  rw [entryText, colon.length_append, whole.length_cons (by decide)]
  exact ⟨(stringText_bytes key).1.append colon, by omega⟩

theorem bracketed_bytes {first last : UInt16} (small : first.toNat < 0x80) (small' : last.toNat < 0x80)
    {text : Units} (whole : WellPaired text) : WellPaired (first :: (text ++ [last])) ∧
      utf8Length (first :: (text ++ [last])) = 2 + utf8Length text := by
  have closing := (OneByteUnits.cons small' .nil)
  have inside := whole.append closing.wellPaired
  have high : isHighSurrogate first = false := decide_eq_false (by omega)
  have low : isLowSurrogate first = false := decide_eq_false (by omega)
  rw [inside.length_cons small, closing.wellPaired.length_append, utf8Length_ascii closing]
  exact ⟨.cons high low inside, by simp; omega⟩

theorem syntaxOf_wellPaired (value : JsValue) : WellPaired (syntaxOf value).text := by
  induction value using JsValue.inductionOn with
  | null => exact .of_small (forall_of_all (by decide))
  | boolean value => cases value <;> exact .of_small (forall_of_all (by decide))
  | number value =>
    cases value with
    | finite negative magnitude => exact (OneByteUnits.numeral _).wellPaired
    | infinite negative =>
      have text : (syntaxOf (.number (.infinite negative))).text = [110, 117, 108, 108] := rfl
      rw [text]
      exact .of_small (forall_of_all (by decide))
  | string text => exact (stringText_bytes text).1
  | array items ih =>
    rw [syntaxOf_array, arraySyntax_text]
    refine (bracketed_bytes (by decide) (by decide) (joinComma_bytes ?_).1).1
    simpa using ih
  | object entries ih =>
    rw [syntaxOf_objectText]
    refine (bracketed_bytes (by decide) (by decide) (joinComma_bytes ?_).1).1
    intro text member
    obtain ⟨entry, inside, rfl⟩ := List.mem_map.mp member
    obtain ⟨source, given, rfl⟩ := List.mem_map.mp ((sortEntries_perm _).mem_iff.mp inside)
    exact (entryText_bytes _ (ih source given)).1

theorem canonicalBytes_array (items : List JsValue) : canonicalBytes (.array items) =
    2 + ((items.map canonicalBytes).sum + (items.length - 1)) := by
  have whole : ∀ text ∈ (items.map fun item => (syntaxOf item).text), WellPaired text := by
    intro text member
    obtain ⟨item, -, rfl⟩ := List.mem_map.mp member
    exact syntaxOf_wellPaired item
  obtain ⟨paired, bytes⟩ := joinComma_bytes whole
  have outer := (bracketed_bytes (show (91 : UInt16).toNat < 0x80 by decide)
    (show (93 : UInt16).toNat < 0x80 by decide) paired).2
  rw [canonicalBytes, syntaxOf_array, arraySyntax_text, List.map_map]
  rw [bytes, List.map_map, List.length_map] at outer
  exact outer

/-- The bytes of an object entry. -/
def entryBytes (entry : Units × JsValue) : Nat :=
  utf8Length (stringText entry.1) + 1 + canonicalBytes entry.2

theorem canonicalBytes_object (entries : List (Units × JsValue)) :
    canonicalBytes (.object entries) =
      2 + ((entries.map entryBytes).sum + (entries.length - 1)) := by
  set texts := (sortEntries (entries.map fun entry => (entry.1, (syntaxOf entry.2).text))).map
    fun entry => entryText entry.1 entry.2 with defined
  -- Sorting changes neither the number of the entries nor the sum of their bytes.
  have perm : texts.Perm (entries.map fun entry => entryText entry.1 (syntaxOf entry.2).text) := by
    have sorted := (sortEntries_perm (entries.map fun entry =>
      (entry.1, (syntaxOf entry.2).text))).map fun entry => entryText entry.1 entry.2
    rwa [List.map_map] at sorted
  have whole : ∀ text ∈ texts, WellPaired text := by
    intro text member
    obtain ⟨entry, -, rfl⟩ := List.mem_map.mp (perm.mem_iff.mp member)
    exact (entryText_bytes _ (syntaxOf_wellPaired _)).1
  obtain ⟨paired, bytes⟩ := joinComma_bytes whole
  have outer := (bracketed_bytes (show (123 : UInt16).toNat < 0x80 by decide)
    (show (125 : UInt16).toNat < 0x80 by decide) paired).2
  have sum : (texts.map utf8Length).sum = (entries.map entryBytes).sum := by
    rw [(perm.map utf8Length).sum_eq, List.map_map]
    congr 1
    exact List.map_congr_left fun entry _ => (entryText_bytes _ (syntaxOf_wellPaired _)).2
  have length : texts.length = entries.length := by rw [perm.length_eq, List.length_map]
  rw [canonicalBytes, syntaxOf_objectText]
  rw [bytes, sum, length] at outer
  exact outer

theorem decodeUtf8_canonical (value : JsValue) :
    decodeUtf8 (encodeUtf8 (syntaxOf value).text) = (syntaxOf value).text :=
  decodeUtf8_encodeUtf8 (syntaxOf_wellPaired value)

end StrictJson

end Klura
