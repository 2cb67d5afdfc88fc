import Klura.Library.CodeUnits

/-! UTF-8 as buffers write and read it, with the replacement character where it is broken. -/

namespace Klura

/-- The code unit that stands for what cannot be decoded. -/
def replacementUnit : UInt16 := 0xFFFD

/-- The bytes of a character that lies outside the basic plane. -/
def supplementaryBytes (code : Nat) : Bytes :=
  [UInt8.ofNat (0xF0 + code / 262144), UInt8.ofNat (0x80 + code / 4096 % 64),
    UInt8.ofNat (0x80 + code / 64 % 64), UInt8.ofNat (0x80 + code % 64)]

/-- The number of the character that two surrogates stand for. -/
def pairCode (high low : UInt16) : Nat :=
  0x10000 + (high.toNat - 0xD800) * 0x400 + (low.toNat - 0xDC00)

/-- The bytes of a code unit that stands alone. -/
def unitBytes (unit : UInt16) : Bytes :=
  let code := unit.toNat
  if code < 0x80 then [UInt8.ofNat code]
  else if code < 0x800 then [UInt8.ofNat (0xC0 + code / 64), UInt8.ofNat (0x80 + code % 64)]
  else if isHighSurrogate unit || isLowSurrogate unit then [0xEF, 0xBF, 0xBD]
  else [UInt8.ofNat (0xE0 + code / 4096), UInt8.ofNat (0x80 + code / 64 % 64),
    UInt8.ofNat (0x80 + code % 64)]

/-- The bytes of a character. -/
def CodePoint.bytes : CodePoint → Bytes
  | .pair high low => supplementaryBytes (pairCode high low)
  | .single unit => unitBytes unit

/-- The bytes that a buffer holds of a string. -/
def encodeUtf8 (text : Units) : Bytes := (codePoints text).flatMap CodePoint.bytes

/-- Whether a byte may continue a character in these bounds. -/
def continues (least most : Nat) (byte : UInt8) : Bool :=
  decide (least ≤ byte.toNat ∧ byte.toNat ≤ most)

/-- The least and the greatest byte that may follow the first one of three. -/
def secondOfThree (first : Nat) : Nat × Nat :=
  if first = 0xE0 then (0xA0, 0xBF) else if first = 0xED then (0x80, 0x9F) else (0x80, 0xBF)

/-- The least and the greatest byte that may follow the first one of four. -/
def secondOfFour (first : Nat) : Nat × Nat :=
  if first = 0xF0 then (0x90, 0xBF) else if first = 0xF4 then (0x80, 0x8F) else (0x80, 0xBF)

/-- The surrogates that a character outside the basic plane is kept in. -/
def surrogates (code : Nat) : Units :=
  [UInt16.ofNat (0xD800 + (code - 0x10000) / 0x400), UInt16.ofNat (0xDC00 + (code - 0x10000) % 0x400)]

/-- The string that a buffer's bytes are read as. -/
def decodeUtf8 : Bytes → Units
  | [] => []
  | first :: rest =>
    let lead := first.toNat
    if lead < 0x80 then UInt16.ofNat lead :: decodeUtf8 rest
    else if 0xC2 ≤ lead ∧ lead ≤ 0xDF then
      match rest with
      | [] => [replacementUnit]
      | second :: after =>
        if continues 0x80 0xBF second then
          UInt16.ofNat ((lead - 0xC0) * 64 + (second.toNat - 0x80)) :: decodeUtf8 after
        else replacementUnit :: decodeUtf8 (second :: after)
    else if 0xE0 ≤ lead ∧ lead ≤ 0xEF then
      match rest with
      | [] => [replacementUnit]
      | second :: after =>
        if continues (secondOfThree lead).1 (secondOfThree lead).2 second then
          match after with
          | [] => [replacementUnit]
          | third :: later =>
            if continues 0x80 0xBF third then
              UInt16.ofNat ((lead - 0xE0) * 4096 + (second.toNat - 0x80) * 64
                + (third.toNat - 0x80)) :: decodeUtf8 later
            -- A character that breaks off is replaced as far as it went.
            else replacementUnit :: decodeUtf8 (third :: later)
        else replacementUnit :: decodeUtf8 (second :: after)
    else if 0xF0 ≤ lead ∧ lead ≤ 0xF4 then
      match rest with
      | [] => [replacementUnit]
      | second :: after =>
        if continues (secondOfFour lead).1 (secondOfFour lead).2 second then
          match after with
          | [] => [replacementUnit]
          | third :: later =>
            if continues 0x80 0xBF third then
              match later with
              | [] => [replacementUnit]
              | fourth :: last =>
                if continues 0x80 0xBF fourth then
                  surrogates ((lead - 0xF0) * 262144 + (second.toNat - 0x80) * 4096
                    + (third.toNat - 0x80) * 64 + (fourth.toNat - 0x80)) ++ decodeUtf8 last
                else replacementUnit :: decodeUtf8 (fourth :: last)
            else replacementUnit :: decodeUtf8 (third :: later)
        else replacementUnit :: decodeUtf8 (second :: after)
    else replacementUnit :: decodeUtf8 rest

attribute [local simp] decodeUtf8 unitBytes

theorem CodePoint.bytes_length (point : CodePoint) : point.bytes.length = point.utf8Length := by
  cases point with
  | pair high low => rfl
  | single unit =>
    simp only [CodePoint.bytes, CodePoint.utf8Length, unitBytes]
    split_ifs <;> rfl

theorem encodeUtf8_length (text : Units) : (encodeUtf8 text).length = utf8Length text := by
  unfold encodeUtf8 utf8Length
  rw [List.length_flatMap]
  congr 1
  exact List.map_congr_left fun point _ => point.bytes_length

theorem toNat_byte {value : Nat} (small : value < 256) : (UInt8.ofNat value).toNat = value := by
  rw [UInt8.toNat_ofNat']
  omega

variable {lead : UInt8}

theorem decodeUtf8_one (small : lead.toNat < 0x80) (rest : Bytes) :
    decodeUtf8 (lead :: rest) = UInt16.ofNat lead.toNat :: decodeUtf8 rest := by
  rw [decodeUtf8.eq_def]
  simp only [if_pos small]

variable {second : UInt8}

/-- Two bytes within their bounds are a character. -/
theorem decodeUtf8_two (first : 0xC2 ≤ lead.toNat ∧ lead.toNat ≤ 0xDF)
    (next : continues 0x80 0xBF second = true) (rest : Bytes) :
    decodeUtf8 (lead :: second :: rest) =
      UInt16.ofNat ((lead.toNat - 0xC0) * 64 + (second.toNat - 0x80)) :: decodeUtf8 rest := by
  have above : ¬lead.toNat < 0x80 := by omega
  rw [decodeUtf8.eq_def]
  simp only [if_neg above, if_pos first, next, if_true]

/-- Three bytes within their bounds are a character. -/
theorem decodeUtf8_three {third : UInt8} (first : 0xE0 ≤ lead.toNat ∧ lead.toNat ≤ 0xEF)
    (next : continues (secondOfThree lead.toNat).1 (secondOfThree lead.toNat).2 second = true)
    (last : continues 0x80 0xBF third = true) (rest : Bytes) :
    decodeUtf8 (lead :: second :: third :: rest) =
      UInt16.ofNat ((lead.toNat - 0xE0) * 4096 + (second.toNat - 0x80) * 64
        + (third.toNat - 0x80)) :: decodeUtf8 rest := by
  have above : ¬lead.toNat < 0x80 := by omega
  have apart : ¬(0xC2 ≤ lead.toNat ∧ lead.toNat ≤ 0xDF) := by omega
  rw [decodeUtf8.eq_def]
  simp only [if_neg above, if_neg apart, if_pos first, next, last, if_true]

/-- Four bytes within their bounds are a pair of surrogates. -/
theorem decodeUtf8_four {third fourth : UInt8} (first : 0xF0 ≤ lead.toNat ∧ lead.toNat ≤ 0xF4)
    (next : continues (secondOfFour lead.toNat).1 (secondOfFour lead.toNat).2 second = true)
    (later : continues 0x80 0xBF third = true) (last : continues 0x80 0xBF fourth = true)
    (rest : Bytes) :
    decodeUtf8 (lead :: second :: third :: fourth :: rest) =
      surrogates ((lead.toNat - 0xF0) * 262144 + (second.toNat - 0x80) * 4096
        + (third.toNat - 0x80) * 64 + (fourth.toNat - 0x80)) ++ decodeUtf8 rest := by
  have above : ¬lead.toNat < 0x80 := by omega
  have apart : ¬(0xC2 ≤ lead.toNat ∧ lead.toNat ≤ 0xDF) := by omega
  have apart' : ¬(0xE0 ≤ lead.toNat ∧ lead.toNat ≤ 0xEF) := by omega
  rw [decodeUtf8.eq_def]
  simp only [if_neg above, if_neg apart, if_neg apart', if_pos first, next, later, last, if_true]

theorem continues_byte {least most value : Nat} (small : value < 256)
    (within : least ≤ value ∧ value ≤ most) : continues least most (UInt8.ofNat value) = true := by
  rw [continues, toNat_byte small]
  exact decide_eq_true within

/-- The bytes of a code unit that is no surrogate are read as the code unit. -/
theorem decodeUtf8_unit {unit : UInt16} (high : isHighSurrogate unit = false)
    (low : isLowSurrogate unit = false) (rest : Bytes) :
    decodeUtf8 (unitBytes unit ++ rest) = unit :: decodeUtf8 rest := by
  have code := unit.toNat_lt
  have same : UInt16.ofNat unit.toNat = unit := UInt16.ofNat_toNat
  have outside : ¬(0xD800 ≤ unit.toNat ∧ unit.toNat < 0xE000) := by
    simp only [isHighSurrogate, isLowSurrogate, decide_eq_false_iff_not] at high low
    omega
  unfold unitBytes
  simp only [high, low, Bool.or_self, Bool.false_eq_true, if_false]
  generalize unit.toNat = value at code same outside
  split_ifs with one two
  · have lead := toNat_byte (show value < 256 by omega)
    rw [List.singleton_append, decodeUtf8_one (by omega), lead, same]
  · have lead := toNat_byte (show 0xC0 + value / 64 < 256 by omega)
    have second := toNat_byte (show 0x80 + value % 64 < 256 by omega)
    rw [List.cons_append, List.singleton_append,
      decodeUtf8_two (by omega) (continues_byte (by omega) (by omega)), lead, second]
    rw [show (0xC0 + value / 64 - 0xC0) * 64 + (0x80 + value % 64 - 0x80) = value by omega, same]
  · have lead := toNat_byte (show 0xE0 + value / 4096 < 256 by omega)
    have second := toNat_byte (show 0x80 + value / 64 % 64 < 256 by omega)
    have third := toNat_byte (show 0x80 + value % 64 < 256 by omega)
    -- The second byte avoids the overlong forms and the surrogates.
    have next : continues (secondOfThree (0xE0 + value / 4096)).1
        (secondOfThree (0xE0 + value / 4096)).2 (UInt8.ofNat (0x80 + value / 64 % 64)) = true := by
      apply continues_byte (by omega)
      unfold secondOfThree
      split_ifs <;> dsimp only <;> omega
    rw [List.cons_append, List.cons_append, List.singleton_append,
      decodeUtf8_three (by omega) (by rw [lead]; exact next) (continues_byte (by omega) (by omega)),
      lead, second, third]
    rw [show (0xE0 + value / 4096 - 0xE0) * 4096 + (0x80 + value / 64 % 64 - 0x80) * 64
      + (0x80 + value % 64 - 0x80) = value by omega, same]

/-- The bytes of a pair of surrogates are read as the pair. -/
theorem decodeUtf8_pair {high low : UInt16} (first : isHighSurrogate high = true)
    (second : isLowSurrogate low = true) (rest : Bytes) :
    decodeUtf8 (supplementaryBytes (pairCode high low) ++ rest) = high :: low :: decodeUtf8 rest := by
  have first : 0xD800 ≤ high.toNat ∧ high.toNat < 0xDC00 := of_decide_eq_true first
  have second : 0xDC00 ≤ low.toNat ∧ low.toNat < 0xE000 := of_decide_eq_true second
  have sameHigh : UInt16.ofNat high.toNat = high := UInt16.ofNat_toNat
  have sameLow : UInt16.ofNat low.toNat = low := UInt16.ofNat_toNat
  unfold supplementaryBytes pairCode
  generalize high.toNat = upper at first sameHigh
  generalize low.toNat = lower at second sameLow
  obtain ⟨code, coded⟩ : ∃ code, code = 0x10000 + (upper - 0xD800) * 0x400 + (lower - 0xDC00) :=
    ⟨_, rfl⟩
  rw [← coded]
  have range : 0x10000 ≤ code ∧ code < 0x110000 := by omega
  have lead := toNat_byte (show 0xF0 + code / 262144 < 256 by omega)
  have byte2 := toNat_byte (show 0x80 + code / 4096 % 64 < 256 by omega)
  have byte3 := toNat_byte (show 0x80 + code / 64 % 64 < 256 by omega)
  have byte4 := toNat_byte (show 0x80 + code % 64 < 256 by omega)
  have next : continues (secondOfFour (0xF0 + code / 262144)).1
      (secondOfFour (0xF0 + code / 262144)).2 (UInt8.ofNat (0x80 + code / 4096 % 64)) = true := by
    apply continues_byte (by omega)
    unfold secondOfFour
    split_ifs <;> dsimp only <;> omega
  rw [List.cons_append, List.cons_append, List.cons_append, List.singleton_append,
    decodeUtf8_four (by omega) (by rw [lead]; exact next) (continues_byte (by omega) (by omega))
      (continues_byte (by omega) (by omega)), lead, byte2, byte3, byte4]
  have whole : (0xF0 + code / 262144 - 0xF0) * 262144 + (0x80 + code / 4096 % 64 - 0x80) * 4096
      + (0x80 + code / 64 % 64 - 0x80) * 64 + (0x80 + code % 64 - 0x80) = code := by omega
  rw [whole, surrogates]
  rw [show 0xD800 + (code - 0x10000) / 0x400 = upper by omega,
    show 0xDC00 + (code - 0x10000) % 0x400 = lower by omega, sameHigh, sameLow]
  rfl

/-- A pair among the characters of a string is one of a high and a low surrogate. -/
theorem codePoints_paired (text : Units) : ∀ high low, CodePoint.pair high low ∈ codePoints text →
    isHighSurrogate high = true ∧ isLowSurrogate low = true := by
  induction text using codePoints.induct with
  | case1 => simp [codePoints]
  | case2 unit => simp [codePoints]
  | case3 first second rest paired ih =>
    intro high low member
    rw [codePoints, if_pos paired] at member
    rcases List.mem_cons.mp member with same | later
    · cases same
      simpa using paired
    · exact ih high low later
  | case4 first second rest unpaired ih =>
    intro high low member
    rw [codePoints, if_neg unpaired] at member
    rcases List.mem_cons.mp member with same | later
    · cases same
    · exact ih high low later

variable {text : Units}

/-- What a buffer holds of a well-paired string is read as the string. -/
theorem decodeUtf8_encodeUtf8 (whole : WellPaired text) :
    decodeUtf8 (encodeUtf8 text) = text := by
  have points : ∀ points : List CodePoint, (∀ point ∈ points, point.isLone = false) →
      (∀ high low, CodePoint.pair high low ∈ points →
        isHighSurrogate high = true ∧ isLowSurrogate low = true) →
      decodeUtf8 (points.flatMap CodePoint.bytes) = points.flatMap CodePoint.units := by
    intro points
    induction points with
    | nil => intros; rfl
    | cons point rest ih =>
      intro whole paired
      have later := ih (fun other member => whole other (by simp [member]))
        fun high low member => paired high low (by simp [member])
      rw [List.flatMap_cons, List.flatMap_cons, ← later]
      cases point with
      | pair high low =>
        obtain ⟨first, second⟩ := paired high low (by simp)
        exact decodeUtf8_pair first second _
      | single unit =>
        have alone := whole (.single unit) (by simp)
        simp only [CodePoint.isLone, Bool.or_eq_false_iff] at alone
        exact decodeUtf8_unit alone.1 alone.2 _
  rw [encodeUtf8, points _ whole (codePoints_paired text)]
  exact codePoints_units text

/-- A well-paired string does not begin with the second half of a pair. -/
theorem WellPaired.head (whole : WellPaired text) :
    ∀ unit ∈ text.head?, isLowSurrogate unit = false := by
  intro unit first
  cases text with
  | nil => cases first
  | cons _ rest =>
    cases first
    have single : CodePoint.single unit ∈ codePoints (unit :: rest) →
        isLowSurrogate unit = false := by
      intro member
      have alone := whole _ member
      simp only [CodePoint.isLone, Bool.or_eq_false_iff] at alone
      exact alone.2
    cases rest with
    | nil => exact single (by simp [codePoints])
    | cons second rest =>
      by_cases paired : (isHighSurrogate unit && isLowSurrogate second) = true
      · have high : isHighSurrogate unit = true := (Bool.and_eq_true_iff.mp paired).1
        have high : 0xD800 ≤ unit.toNat ∧ unit.toNat < 0xDC00 := of_decide_eq_true high
        exact decide_eq_false (by omega)
      · apply single
        rw [codePoints, if_neg paired]
        exact List.mem_cons_self

/-- Well-paired strings in a row are well paired. -/
theorem WellPaired.append {front back : Units} (first : WellPaired front)
    (second : WellPaired back) : WellPaired (front ++ back) := by
  intro point member
  rw [codePoints_append front back second.head] at member
  rcases List.mem_append.mp member with early | late
  · exact first point early
  · exact second point late

theorem WellPaired.nil : WellPaired [] := nofun

/-- A code unit that is no surrogate keeps what follows it well paired. -/
theorem WellPaired.cons {unit : UInt16} {text : Units} (high : isHighSurrogate unit = false)
    (low : isLowSurrogate unit = false) (whole : WellPaired text) : WellPaired (unit :: text) := by
  have single : WellPaired [unit] := by
    intro point member
    rw [codePoints, List.mem_singleton] at member
    subst member
    simp [CodePoint.isLone, high, low]
  exact single.append whole

/-- A string of code units below the surrogates is well paired. -/
theorem WellPaired.of_small (small : ∀ unit ∈ text, unit.toNat < 0xD800) :
    WellPaired text := by
  induction text with
  | nil => exact .nil
  | cons unit rest ih =>
    have below := small unit (by simp)
    refine .cons ?_ ?_ (ih fun other member => small other (by simp [member]))
    · exact decide_eq_false (by omega)
    · exact decide_eq_false (by omega)

/-- What bytes are read as has no half of a pair. -/
theorem decodeUtf8_wellPaired (bytes : Bytes) : WellPaired (decodeUtf8 bytes) := by
  have replaced {rest : Units} (whole : WellPaired rest) : WellPaired (replacementUnit :: rest) :=
    .cons (by decide) (by decide) whole
  have plain {code : Nat} {rest : Units} (outside : code < 0xD800 ∨ 0xE000 ≤ code ∧ code < 0x10000)
      (whole : WellPaired rest) : WellPaired (UInt16.ofNat code :: rest) := by
    have number : (UInt16.ofNat code).toNat = code := by
      rw [UInt16.toNat_ofNat']
      omega
    exact .cons (decide_eq_false (by omega)) (decide_eq_false (by omega)) whole
  have paired {code : Nat} {rest : Units} (outside : 0x10000 ≤ code) (inside : code < 0x110000)
      (whole : WellPaired rest) : WellPaired (surrogates code ++ rest) := by
    have high : (UInt16.ofNat (0xD800 + (code - 0x10000) / 0x400)).toNat =
        0xD800 + (code - 0x10000) / 0x400 := by
      rw [UInt16.toNat_ofNat']
      omega
    have low : (UInt16.ofNat (0xDC00 + (code - 0x10000) % 0x400)).toNat =
        0xDC00 + (code - 0x10000) % 0x400 := by
      rw [UInt16.toNat_ofNat']
      omega
    have first : isHighSurrogate (UInt16.ofNat (0xD800 + (code - 0x10000) / 0x400)) = true :=
      decide_eq_true (by omega)
    have second : isLowSurrogate (UInt16.ofNat (0xDC00 + (code - 0x10000) % 0x400)) = true :=
      decide_eq_true (by omega)
    intro point member
    simp only [surrogates, List.cons_append, List.nil_append, codePoints, first, second,
      Bool.and_self, if_true, List.mem_cons] at member
    rcases member with rfl | later
    · rfl
    · exact whole point later
  -- The induction is on the length, and the cases are the ones of the decoder.
  induction size : bytes.length using Nat.strong_induction_on generalizing bytes with
  | _ size ih =>
    have later (rest : Bytes) (shorter : rest.length < bytes.length) :
        WellPaired (decodeUtf8 rest) := ih rest.length (size ▸ shorter) rest rfl
    unfold decodeUtf8
    split
    · exact .nil
    · rename_i first rest
      dsimp only
      split_ifs with one two three four
      · exact plain (.inl (by omega)) (later rest (by simp))
      · split
        · exact replaced .nil
        · rename_i second after
          split_ifs with follows
          · have bounds := of_decide_eq_true follows
            exact plain (.inl (by omega)) (later after (by simp only [List.length_cons]; omega))
          · exact replaced (later _ (by simp))
      · split
        · exact replaced .nil
        · rename_i second after
          split_ifs with follows
          · split
            · exact replaced .nil
            · rename_i third last
              split_ifs with follows'
              · have bounds := of_decide_eq_true follows
                have bounds' := of_decide_eq_true follows'
                refine plain ?_ (later last (by simp; omega))
                unfold secondOfThree at bounds
                split_ifs at bounds <;> omega
              · exact replaced (later _ (by simp))
          · exact replaced (later _ (by simp))
      · split
        · exact replaced .nil
        · rename_i second after
          split_ifs with follows
          · split
            · exact replaced .nil
            · rename_i third last
              split_ifs with follows'
              · split
                · exact replaced .nil
                · rename_i fourth last
                  split_ifs with follows''
                  · have bounds := of_decide_eq_true follows
                    have bounds' := of_decide_eq_true follows'
                    have bounds'' := of_decide_eq_true follows''
                    unfold secondOfFour at bounds
                    refine paired ?_ ?_ (later last (by simp; omega))
                    · split_ifs at bounds <;> omega
                    · split_ifs at bounds <;> omega
                  · exact replaced (later _ (by simp))
              · exact replaced (later _ (by simp))
          · exact replaced (later _ (by simp))
      · exact replaced (later _ (by simp))

/-- A string of one-byte code units takes a byte for each. -/
theorem utf8Length_ascii (small : ∀ unit ∈ text, unit.toNat < 0x80) :
    utf8Length text = text.length := by
  induction text with
  | nil => rfl
  | cons unit rest ih =>
    have below := small unit (by simp)
    have rest' : ∀ other ∈ rest, other.toNat < 0x80 := fun other member =>
      small other (by simp [member])
    have whole : WellPaired rest :=
      .of_small fun other member => (rest' other member).trans (by decide)
    have one : utf8Length [unit] = 1 := by
      simp [utf8Length, codePoints, CodePoint.utf8Length, below]
    have split := utf8Length_append [unit] rest whole.head
    rw [List.singleton_append] at split
    rw [split, one, ih rest', List.length_cons, Nat.add_comm]

end Klura
