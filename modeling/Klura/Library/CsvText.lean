import Klura.Library.WellFormed

/-! Comma-separated text whose fields are quoted, and the reader that splits it again. -/

namespace Klura

/-- A field in quotes, with the quotes inside it doubled. -/
def quoteField (value : Units) : Units :=
  34 :: (value.flatMap (fun unit => if unit = 34 then [34, 34] else [unit]) ++ [34])

/-- A record: its fields with commas between them, and a line break. -/
def recordText (fields : List Units) : Units :=
  [44].intercalate (fields.map quoteField) ++ [10]

/-- Where a reader of such text stands. -/
inductive CsvPosition where
  /-- Before a field. -/
  | opening
  /-- Within a field without quotes. -/
  | bare
  /-- Within a field in quotes. -/
  | quoted
  /-- Behind a quote within a field in quotes. -/
  | closing
  deriving DecidableEq

/-- What a code unit means to such a reader. -/
inductive CsvMove where
  /-- It is a quote that stands around a field. -/
  | turns (position : CsvPosition)
  /-- It belongs to a field. -/
  | adds (position : CsvPosition)
  | endsField
  | endsRecord
  | fails

/-- What a code unit means at a position. -/
def csvMove (position : CsvPosition) (unit : UInt16) : CsvMove :=
  match position with
  | .quoted => if unit = 34 then .turns .closing else .adds .quoted
  | .opening =>
    if unit = 44 then .endsField else if unit = 10 then .endsRecord
    else if unit = 34 then .turns .quoted else .adds .bare
  | .bare =>
    if unit = 44 then .endsField else if unit = 10 then .endsRecord
    else if unit = 34 then .fails else .adds .bare
  | .closing =>
    if unit = 44 then .endsField else if unit = 10 then .endsRecord
    -- A quote behind a quote is one of the field.
    else if unit = 34 then .adds .quoted else .fails

/-- The records of text, from a position with the field and the record read so far. -/
def readCsv : Units → CsvPosition → (field : Units) → (record : List Units) →
    Option (List (List Units))
  | [], .quoted, _, _ => none
  | [], position, field, record =>
    -- Behind a line break nothing is left to end.
    if position = .opening ∧ record = [] then some [] else some [record ++ [field]]
  | unit :: rest, position, field, record =>
    match csvMove position unit with
    | .turns next => readCsv rest next field record
    | .adds next => readCsv rest next (field ++ [unit]) record
    | .endsField => readCsv rest .opening [] (record ++ [field])
    | .endsRecord => (readCsv rest .opening [] []).map ((record ++ [field]) :: ·)
    | .fails => none

/-- The records of a text. -/
def splitCsv (text : Units) : Option (List (List Units)) := readCsv text .opening [] []

/-- What stands between the quotes of a field is read as the field. -/
theorem readCsv_inside (value field : Units) (record : List Units) (rest : Units) :
    readCsv (value.flatMap (fun unit => if unit = 34 then [34, 34] else [unit]) ++ 34 :: rest)
      .quoted field record = readCsv rest .closing (field ++ value) record := by
  induction value generalizing field with
  | nil => simp [readCsv, csvMove]
  | cons unit value ih =>
    rw [List.flatMap_cons]
    by_cases quote : unit = 34
    · subst quote
      simp only [if_true, List.cons_append, List.nil_append, readCsv, csvMove]
      simp only [show ¬(34 : UInt16) = 44 by decide, show ¬(34 : UInt16) = 10 by decide, if_false, ih]
      simp
    · simp only [if_neg quote, List.cons_append, List.nil_append, readCsv, csvMove, ih]
      rw [List.append_assoc]
      rfl

theorem readCsv_field (value : Units) (record : List Units) (rest : Units) :
    readCsv (quoteField value ++ rest) .opening [] record = readCsv rest .closing value record := by
  have inside := readCsv_inside value [] record rest
  rw [quoteField, List.cons_append, List.append_assoc, List.singleton_append, readCsv]
  simpa [csvMove] using inside

theorem readCsv_comma (field : Units) (record : List Units) (rest : Units) :
    readCsv (44 :: rest) .closing field record = readCsv rest .opening [] (record ++ [field]) := by
  simp [readCsv, csvMove]

theorem readCsv_break (field : Units) (record : List Units) (rest : Units) :
    readCsv (10 :: rest) .closing field record =
      (readCsv rest .opening [] []).map ((record ++ [field]) :: ·) := by
  simp [readCsv, csvMove]

/-- A record of quoted fields is read as its fields. -/
theorem readCsv_record (first : Units) (others record : List Units) (rest : Units) :
    readCsv (recordText (first :: others) ++ rest) .opening [] record =
      (readCsv rest .opening [] []).map ((record ++ first :: others) :: ·) := by
  induction others generalizing first record with
  | nil =>
    have text : recordText [first] ++ rest = quoteField first ++ 10 :: rest := by
      simp [recordText]
    rw [text, readCsv_field, readCsv_break]
  | cons second others ih =>
    have text : recordText (first :: second :: others) ++ rest =
        quoteField first ++ 44 :: (recordText (second :: others) ++ rest) := by
      simp [recordText, List.intercalate_cons_cons]
    rw [text, readCsv_field, readCsv_comma, ih, List.append_assoc]
    rfl

/-- Records of at least one field each are split again into their fields. -/
theorem splitCsv_records {records : List (List Units)} (some : ∀ fields ∈ records, fields ≠ []) :
    splitCsv (records.flatMap recordText) = .some records := by
  unfold splitCsv
  induction records with
  | nil => rfl
  | cons fields records ih =>
    have later := ih fun other member => some other (by simp [member])
    obtain ⟨first, others, rfl⟩ := List.exists_cons_of_ne_nil (some fields (by simp))
    rw [List.flatMap_cons, readCsv_record, later, List.nil_append]
    rfl

/-- The replacements between the quotes of a field are those in the field. -/
theorem toWellFormed_inside (value : Units) :
    toWellFormed (value.flatMap fun unit => if unit = 34 then [34, 34] else [unit]) =
      (toWellFormed value).flatMap fun unit => if unit = 34 then [34, 34] else [unit] := by
  -- No replacement and no half of a pair is a quote.
  have single : ∀ unit : UInt16, unit ≠ 34 → (CodePoint.single unit).wellFormed.flatMap
      (fun unit => if unit = 34 then [34, 34] else [unit]) = (CodePoint.single unit).wellFormed := by
    intro unit other
    unfold CodePoint.wellFormed
    split
    · rfl
    · simp [CodePoint.units, other]
  have quoteHigh : isHighSurrogate 34 = false := by decide
  have quoteLow : isLowSurrogate 34 = false := by decide
  induction value using codePoints.induct with
  | case1 => rfl
  | case2 unit =>
    by_cases quote : unit = 34
    · subst quote
      rfl
    · have alone : toWellFormed [unit] = (CodePoint.single unit).wellFormed := by
        simp [toWellFormed, codePoints]
      have inside : [unit].flatMap (fun unit => if unit = 34 then [34, 34] else [unit]) = [unit] := by
        simp [quote]
      rw [inside, alone, single unit quote]
  | case3 first second rest paired ih =>
    obtain ⟨high, low⟩ := Bool.and_eq_true_iff.mp paired
    have firstPlain : first ≠ 34 := fun same => by rw [same, quoteHigh] at high; cases high
    have secondPlain : second ≠ 34 := fun same => by rw [same, quoteLow] at low; cases low
    have pair (text : Units) :
        toWellFormed (first :: second :: text) = first :: second :: toWellFormed text := by
      rw [toWellFormed, codePoints, if_pos paired, List.flatMap_cons]
      rfl
    rw [List.flatMap_cons, List.flatMap_cons, if_neg firstPlain, if_neg secondPlain,
      List.singleton_append, List.singleton_append, pair, pair, ih, List.flatMap_cons,
      List.flatMap_cons, if_neg firstPlain, if_neg secondPlain]
    rfl
  | case4 first second rest unpaired ih =>
    have split : toWellFormed (first :: second :: rest) =
        (CodePoint.single first).wellFormed ++ toWellFormed (second :: rest) := by
      rw [toWellFormed, codePoints, if_neg unpaired, List.flatMap_cons]
      rfl
    rw [split, List.flatMap_append, ← ih, List.flatMap_cons]
    by_cases quote : first = 34
    · subst quote
      rw [if_pos rfl, List.cons_append, List.cons_append, List.nil_append,
        toWellFormed_cons quoteHigh quoteLow, toWellFormed_cons quoteHigh quoteLow]
      rfl
    · rw [if_neg quote, List.singleton_append, single first quote]
      -- What follows still begins with the same code unit.
      have next : ∃ text, (second :: rest).flatMap
          (fun unit => if unit = 34 then [34, 34] else [unit]) = second :: text := by
        rw [List.flatMap_cons]
        by_cases other : second = 34
        · exact ⟨_, by rw [if_pos other, other]; rfl⟩
        · exact ⟨_, by rw [if_neg other]; rfl⟩
      obtain ⟨text, begins⟩ := next
      rw [begins, toWellFormed, codePoints, if_neg unpaired, List.flatMap_cons]
      rfl

/-- The replacements in a quoted field are those in the field. -/
theorem toWellFormed_quoteField (value : Units) :
    toWellFormed (quoteField value) = quoteField (toWellFormed value) := by
  have mark : ∀ unit ∈ ([34] : Units).head?, isLowSurrogate unit = false := by
    rintro unit ⟨⟩
    decide
  rw [quoteField, toWellFormed_cons (by decide) (by decide), toWellFormed_append _ _ mark,
    toWellFormed_inside]
  rfl

/-- The replacements in records are those in their fields. -/
theorem toWellFormed_records (records : List (List Units)) :
    toWellFormed (records.flatMap recordText) =
      (records.map fun fields => fields.map toWellFormed).flatMap recordText := by
  have breaks (rest : Units) : ∀ unit ∈ (10 :: rest : Units).head?, isLowSurrogate unit = false := by
    rintro _ ⟨⟩
    decide
  -- A record begins with a quote or, without fields, with its line break.
  have joined : ∀ fields : List Units, toWellFormed ([44].intercalate (fields.map quoteField)) =
      [44].intercalate ((fields.map toWellFormed).map quoteField) := by
    intro fields
    induction fields with
    | nil => rfl
    | cons first others ih =>
      cases others with
      | nil => simpa using toWellFormed_quoteField first
      | cons second others =>
        simp only [List.map_cons, List.intercalate_cons_cons, List.append_assoc,
          List.singleton_append] at ih ⊢
        have comma : ∀ unit ∈ ((44 : UInt16) :: [44].intercalate
            (quoteField second :: others.map quoteField)).head?, isLowSurrogate unit = false := by
          rintro _ ⟨⟩
          decide
        rw [toWellFormed_append _ _ comma, toWellFormed_quoteField,
          toWellFormed_cons (by decide) (by decide), ih]
  induction records with
  | nil => rfl
  | cons fields records ih =>
    have begins : ∀ unit ∈ (records.flatMap recordText).head?, isLowSurrogate unit = false := by
      intro unit member
      cases records with
      | nil => nomatch member
      | cons next later =>
        rw [List.flatMap_cons, recordText] at member
        rcases next with _ | ⟨first, _ | ⟨second, others⟩⟩
        all_goals
          cases member
          decide
    rw [List.flatMap_cons, List.map_cons, List.flatMap_cons, toWellFormed_append _ _ begins, ih,
      recordText, toWellFormed_append _ _ (breaks []), joined]
    rfl

end Klura
