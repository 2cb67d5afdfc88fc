import Klura.Contracts.RenderedText
import Klura.Run.OutputFile

/-! The file of a sink is the one an export writes, and a document of its format after every item. -/

namespace Klura

open StrictJson

namespace OutputFile

variable (format : RunOutputFormatV1) (columns : List OutputColumnV1)

/-- The text of an item in a file of a format, without the marks between items. -/
def encodedItem (refused : Units → OutputFailureV1) (item : JsValue) :
    Except OutputFailureV1 Units :=
  if format = .csv then projectCsvRow refused columns item else itemText item

/-- The text of a file with the texts of its items, up to the mark that closes it. -/
def openText (texts : List Units) : Units :=
  match format with
  | .json => 91 :: [44].intercalate texts
  | .ndjson => texts.flatMap fun text => text ++ [10]
  | .csv => headerText columns ++ texts.flatMap fun text => text ++ [10]

/-- The mark that closes a file. -/
def closingText : Units := if format = .json then [93] else []

/-- What one more item adds to a file. -/
def addedText (first : Bool) (text : Units) : Units :=
  if format = .json then (if first then [] else [44]) ++ text else text ++ [10]

/-- The text of a file with the texts of its items. -/
def documentText (texts : List Units) : Units :=
  openText format columns texts ++ closingText format

theorem intercalate_concat (texts : List Units) (text : Units) :
    ([44] : Units).intercalate (texts ++ [text]) =
      [44].intercalate texts ++ ((if texts = [] then [] else [44]) ++ text) := by
  induction texts with
  | nil => simp
  | cons first rest ih =>
    cases rest with
    | nil => simp [List.intercalate_cons_cons]
    | cons second rest =>
      simp only [List.cons_append, List.intercalate_cons_cons] at ih ⊢
      rw [ih]
      simp

theorem openText_concat (texts : List Units) (text : Units) :
    openText format columns (texts ++ [text]) =
      openText format columns texts ++ addedText format (texts = []) text := by
  cases format with
  | json => simp [openText, addedText, intercalate_concat]
  | ndjson => simp [openText, addedText]
  | csv => simp [openText, addedText]

/-- What an item adds never joins a character with the file before. -/
theorem encode_added (texts : List Units) (text rest : Units) :
    encodeUtf8 (openText format columns texts ++ (addedText format (texts = []) text ++ rest)) =
      encodeUtf8 (openText format columns texts) ++
        encodeUtf8 (addedText format (texts = []) text ++ rest) := by
  have breaks : ∀ (front : Units) (unit : UInt16), unit ∈ (front ++ [10]).getLast? →
      isHighSurrogate unit = false := by
    intro front unit last
    rw [List.getLast?_concat] at last
    cases last
    decide
  cases format with
  | json =>
    by_cases empty : texts = []
    · -- The opening bracket stands before the first item.
      subst empty
      apply encodeUtf8_append_last
      intro unit last
      cases last
      decide
    · -- A comma stands before any other.
      apply encodeUtf8_append
      intro unit first
      simp only [addedText, empty] at first
      cases first
      decide
  | ndjson =>
    apply encodeUtf8_append_last
    intro unit last
    rcases List.eq_nil_or_concat texts with rfl | ⟨front, text, rfl⟩
    · cases last
    · simp only [openText, List.concat_eq_append, List.flatMap_append, List.flatMap_cons,
        List.flatMap_nil, List.append_nil, ← List.append_assoc] at last
      exact breaks _ unit last
  | csv =>
    apply encodeUtf8_append_last
    intro unit last
    rcases List.eq_nil_or_concat texts with rfl | ⟨front, text, rfl⟩
    · simp only [openText, List.flatMap_nil, List.append_nil, headerText] at last
      exact breaks _ unit last
    · simp only [openText, List.concat_eq_append, List.flatMap_append, List.flatMap_cons,
        List.flatMap_nil, List.append_nil, ← List.append_assoc] at last
      exact breaks _ unit last

theorem encode_closing (front : Units) :
    encodeUtf8 (front ++ closingText format) = encodeUtf8 front ++ encodeUtf8 (closingText format) := by
  apply encodeUtf8_append
  intro unit first
  cases format with
  | json => cases first; decide
  | ndjson => cases first
  | csv => cases first

theorem encode_document_concat (texts : List Units) (text : Units) :
    encodeUtf8 (documentText format columns (texts ++ [text])) =
      encodeUtf8 (openText format columns texts) ++
        encodeUtf8 (addedText format (texts = []) text ++ closingText format) := by
  rw [documentText, openText_concat, List.append_assoc, encode_added]

theorem document_length_concat (texts : List Units) (text : Units) :
    (encodeUtf8 (documentText format columns (texts ++ [text]))).length =
      (encodeUtf8 (documentText format columns texts)).length +
        utf8Length (addedText format (texts = []) text) := by
  rw [encode_document_concat, documentText, encode_closing, encode_closing]
  simp only [List.length_append, encodeUtf8_length]
  omega

/-- A sink that holds the texts of items. -/
def sinkOf (csvColumns : Option (List OutputColumnV1)) (maxOutputBytes : Nat)
    (texts : List Units) : SinkV1 where
  format
  csvColumns
  maxOutputBytes
  file := encodeUtf8 (documentText format columns texts)
  bytesWritten := (encodeUtf8 (documentText format columns texts)).length
  itemsWritten := texts.length
  closed := false

theorem writeBytes_end (file bytes : Bytes) : writeBytes file bytes file.length = file ++ bytes := by
  rw [writeBytes, ftruncate, List.take_length, Nat.sub_self, List.drop_eq_nil_of_le (by omega)]
  simp

variable {format columns}

theorem encodeItem_declared {csvColumns : Option (List OutputColumnV1)}
    (declared : format = .csv → csvColumns = some columns) (item : JsValue) :
    SinkV1.encodeItem format csvColumns item =
      encodedItem format columns (.sink .csvProjectionInvalid) item := by
  unfold SinkV1.encodeItem encodedItem
  by_cases csv : format = .csv
  · rw [if_neg (not_not.mpr csv), if_pos csv, declared csv]
  · rw [if_pos csv, if_neg csv]
    rfl

theorem sinkOf_formatItem {csvColumns : Option (List OutputColumnV1)}
    (declared : format = .csv → csvColumns = some columns) (maxOutputBytes : Nat)
    (texts : List Units) (item : JsValue) :
    (sinkOf format columns csvColumns maxOutputBytes texts).formatItem item =
      (encodedItem format columns (.sink .csvProjectionInvalid) item).map
        (addedText format (texts = [])) := by
  unfold SinkV1.formatItem
  simp only [sinkOf, encodeItem_declared declared item]
  cases encodedItem format columns (.sink .csvProjectionInvalid) item with
  | error error => rfl
  | ok text =>
    by_cases json : format = .json
    · simp [bind, Except.bind, pure, Except.pure, Except.map, addedText, json]
    · simp [bind, Except.bind, pure, Except.pure, Except.map, addedText, json]

theorem ftruncate_json (texts : List Units) (json : format = .json) :
    (encodeUtf8 (documentText format columns texts)).length - 1 =
        (encodeUtf8 (openText format columns texts)).length ∧
      ftruncate (encodeUtf8 (documentText format columns texts))
        (encodeUtf8 (openText format columns texts)).length =
          encodeUtf8 (openText format columns texts) := by
  have closing : closingText format = [93] := if_pos json
  have bracket : encodeUtf8 [93] = [93] := by decide
  have whole := encode_closing format (openText format columns texts)
  rw [closing, bracket] at whole
  rw [documentText, closing, whole, List.length_append]
  refine ⟨rfl, ?_⟩
  rw [ftruncate, List.length_append, List.take_left]
  simp

/-- A sink that writes one more item holds its text, when it is not too long. -/
theorem sinkOf_write {csvColumns : Option (List OutputColumnV1)}
    (declared : format = .csv → csvColumns = some columns) (maxOutputBytes : Nat)
    (texts : List Units) (item : JsValue) :
    (sinkOf format columns csvColumns maxOutputBytes texts).write item =
      encodedItem format columns (.sink .csvProjectionInvalid) item >>= fun text =>
        if maxOutputBytes < (encodeUtf8 (documentText format columns (texts ++ [text]))).length then
          .error (.sink .outputBudgetExhausted (ascii "declared output byte budget is exhausted"))
        else .ok (sinkOf format columns csvColumns maxOutputBytes (texts ++ [text])) := by
  have opened : (sinkOf format columns csvColumns maxOutputBytes texts).closed = false := rfl
  rw [SinkV1.write, sinkOf_formatItem declared, opened]
  cases encodedItem format columns (.sink .csvProjectionInvalid) item with
  | error error => rfl
  | ok text =>
    have length := document_length_concat format columns texts text
    have concat := encode_document_concat format columns texts text
    have count : (texts ++ [text]).length = texts.length + 1 := List.length_append
    have room : (sinkOf format columns csvColumns maxOutputBytes texts).reserve
        (utf8Length (addedText format (texts = []) text)) =
          if maxOutputBytes <
            (encodeUtf8 (documentText format columns (texts ++ [text]))).length then
          .error (.sink .outputBudgetExhausted (ascii "declared output byte budget is exhausted"))
          else .ok () := by
      rw [SinkV1.reserve, length]
      rfl
    simp only [bind, Except.bind, pure, Except.pure, Except.map, Bool.false_eq_true, if_false, room]
    by_cases long : maxOutputBytes <
        (encodeUtf8 (documentText format columns (texts ++ [text]))).length
    · rw [if_pos long, if_pos long]
    rw [if_neg long, if_neg long]
    by_cases json : format = .json
    · -- The closing bracket is cut off, and written again behind the item.
      obtain ⟨place, cut⟩ := @ftruncate_json format columns texts json
      have closing : closingText format = [93] := if_pos json
      have written := writeBytes_end (encodeUtf8 (openText format columns texts))
        (encodeUtf8 (addedText format (texts = []) text ++ [93]))
      rw [closing] at concat
      simp only [sinkOf, if_pos json, place, cut, written, ← concat, ← length, count]
    · have closing : closingText format = [] := if_neg json
      have written := writeBytes_end (encodeUtf8 (documentText format columns texts))
        (encodeUtf8 (addedText format (texts = []) text))
      have file : openText format columns texts = documentText format columns texts := by
        rw [documentText, closing, List.append_nil]
      rw [closing, List.append_nil, file] at concat
      simp only [sinkOf, if_neg json, written, ← concat, ← length, count]

/-- The texts of items in a file. -/
def TextsOf (format : RunOutputFormatV1) (columns : List OutputColumnV1)
    (refused : Units → OutputFailureV1) (items : List OutputItemV1) (texts : List Units) : Prop :=
  List.Forall₂ (fun item text => encodedItem format columns refused item.val = .ok text) items texts

theorem bytes_grow {bytes : List Units → Nat}
    (grows : ∀ texts text, bytes texts ≤ bytes (texts ++ [text])) (texts more : List Units) :
    bytes texts ≤ bytes (texts ++ more) := by
  induction more generalizing texts with
  | nil => simp
  | cons text more ih =>
    have later := ih (texts ++ [text])
    rw [List.append_assoc, List.singleton_append] at later
    exact (grows texts text).trans later

/-- Steps that add the text of an item each, while all of them fit, add the texts of all items. -/
theorem foldlM_texts {State : Type} {state : List Units → State} {bytes : List Units → Nat}
    {refused : Units → OutputFailureV1} {exhausted : OutputFailureV1} {maximum : Nat}
    {step : State → OutputItemV1 → Except OutputFailureV1 State}
    (steps : ∀ texts item, step (state texts) item =
      encodedItem format columns refused item.val >>= fun text =>
        if maximum < bytes (texts ++ [text]) then .error exhausted
        else .ok (state (texts ++ [text])))
    (grows : ∀ texts text, bytes texts ≤ bytes (texts ++ [text]))
    (items : List OutputItemV1) (texts : List Units) (within : bytes texts ≤ maximum)
    (final : State) :
    items.foldlM step (state texts) = .ok final ↔
      ∃ more, TextsOf format columns refused items more ∧ bytes (texts ++ more) ≤ maximum ∧
        final = state (texts ++ more) := by
  induction items generalizing texts with
  | nil =>
    constructor
    · rintro ⟨⟩
      exact ⟨[], .nil, by simpa using within, by simp⟩
    · rintro ⟨more, ⟨⟩, -, rfl⟩
      rw [List.append_nil]
      rfl
  | cons item items ih =>
    rw [List.foldlM_cons, steps]
    cases encoded : encodedItem format columns refused item.val with
    | error error =>
      constructor
      · exact nofun
      · rintro ⟨more, own, -⟩
        cases own with
        | cons first _ => rw [encoded] at first; nomatch first
    | ok text =>
      have split {more : List Units}
          (own : TextsOf format columns refused (item :: items) more) :
          ∃ others, more = text :: others ∧ TextsOf format columns refused items others := by
        cases own with
        | cons first others =>
          rw [encoded] at first
          cases first
          exact ⟨_, rfl, others⟩
      simp only [bind, Except.bind]
      by_cases long : maximum < bytes (texts ++ [text])
      · rw [if_pos long]
        constructor
        · exact nofun
        · rintro ⟨more, own, fits, -⟩
          obtain ⟨others, rfl, -⟩ := split own
          have reached := bytes_grow grows (texts ++ [text]) others
          rw [List.append_assoc, List.singleton_append] at reached
          exact absurd (reached.trans fits) (Nat.not_le.mpr long)
      · rw [if_neg long]
        refine (ih (texts ++ [text]) (Nat.le_of_not_lt long)).trans ?_
        simp only [List.append_assoc, List.singleton_append]
        constructor
        · rintro ⟨more, others, fits, rfl⟩
          exact ⟨text :: more, .cons encoded others, fits, rfl⟩
        · rintro ⟨more, own, fits, rfl⟩
          obtain ⟨others, rfl, rest⟩ := split own
          exact ⟨others, rest, fits, rfl⟩

/-- An export that has written the texts of items, up to the closing mark. -/
def exportOf (format : RunOutputFormatV1) (columns : List OutputColumnV1) (texts : List Units) :
    ExportV1 where
  file := encodeUtf8 (openText format columns texts)
  bytesWritten := (encodeUtf8 (openText format columns texts)).length
  itemsWritten := texts.length

/-- What an export writes for an item. -/
def renderOf (format : RunOutputFormatV1) (columns : List OutputColumnV1) (first : Bool)
    (item : JsValue) : Except OutputFailureV1 Units :=
  (encodedItem format columns (.result .csvProjectionInvalid) item).map (addedText format first)

theorem encode_open_concat (texts : List Units) (text : Units) :
    encodeUtf8 (openText format columns (texts ++ [text])) =
      encodeUtf8 (openText format columns texts) ++
        encodeUtf8 (addedText format (texts = []) text) := by
  have added := encode_added format columns texts text []
  rw [List.append_nil] at added
  rw [openText_concat, added]

theorem exportOf_writeItem (maxOutputBytes : Nat) (texts : List Units) (item : JsValue) :
    (exportOf format columns texts).writeItem maxOutputBytes (renderOf format columns) item =
      encodedItem format columns (.result .csvProjectionInvalid) item >>= fun text =>
        if maxOutputBytes < (encodeUtf8 (openText format columns (texts ++ [text]))).length then
          .error (.result .outputBudgetExhausted (ascii "declared output byte budget is exhausted"))
        else .ok (exportOf format columns (texts ++ [text])) := by
  have first : decide ((exportOf format columns texts).itemsWritten = 0) = decide (texts = []) := by
    simp [exportOf]
  unfold ExportV1.writeItem renderOf
  rw [first]
  cases encodedItem format columns (.result .csvProjectionInvalid) item with
  | error error => rfl
  | ok text =>
    have added := @encode_open_concat format columns texts text
    have count : (texts ++ [text]).length = texts.length + 1 := List.length_append
    have length := congrArg List.length added
    rw [List.length_append] at length
    simp only [bind, Except.bind, pure, Except.pure, Except.map, ExportV1.write]
    by_cases long : maxOutputBytes <
        (encodeUtf8 (openText format columns (texts ++ [text]))).length
    · rw [if_pos long, if_pos (by rw [length] at long; exact long)]
    · rw [if_neg long, if_neg (by rw [length] at long; exact long)]
      simp only [exportOf, added, count, List.length_append]

/-- A list of results that are all values. -/
theorem mapM_iff {α β ε : Type} (f : α → Except ε β) (list : List α) (values : List β) :
    list.mapM f = .ok values ↔ List.Forall₂ (fun element value => f element = .ok value) list values := by
  induction list generalizing values with
  | nil =>
    constructor
    · rintro ⟨⟩
      exact .nil
    · rintro ⟨⟩
      rfl
  | cons element list ih =>
    rw [List.mapM_cons]
    cases first : f element with
    | error error =>
      constructor
      · exact nofun
      · intro own
        cases own with
        | cons same _ => rw [first] at same; nomatch same
    | ok value =>
      cases rest : list.mapM f with
      | error error =>
        constructor
        · exact nofun
        · intro own
          cases own with
          | cons _ others => rw [(ih _).mpr others] at rest; nomatch rest
      | ok later =>
        constructor
        · rintro ⟨⟩
          exact .cons first ((ih later).mp rest)
        · intro own
          cases own with
          | cons same others =>
            rw [first] at same
            rw [(ih _).mpr others] at rest
            cases same
            cases rest
            rfl

/-- The strings that columns have for an item. -/
def CellsOf (columns : List OutputColumnV1) (item : JsValue) (cells : List Units) : Prop :=
  List.Forall₂ (fun column cell => ∀ refused, cellString refused item column = .ok cell) columns cells

theorem cellString_ok {first : Units → OutputFailureV1} (second : Units → OutputFailureV1)
    {item : JsValue} {column : OutputColumnV1} {cell : Units}
    (found : cellString first item column = .ok cell) :
    cellString second item column = .ok cell := by
  unfold cellString at found ⊢
  cases pointed : column.pointer item with
  | error error => rw [pointed] at found; nomatch found
  | ok value =>
    rw [pointed] at found
    cases value <;> exact found

theorem projectCsvRow_iff {refused : Units → OutputFailureV1} {item : JsValue} {row : Units} :
    projectCsvRow refused columns item = .ok row ↔
      ∃ cells, CellsOf columns item cells ∧ row = [44].intercalate (cells.map escapeCsv) := by
  have cells (values : List Units) : columns.mapM (projectCsvCell refused item) = .ok values ↔
      ∃ cells, CellsOf columns item cells ∧ values = cells.map escapeCsv := by
    rw [mapM_iff]
    constructor
    · intro projected
      induction projected with
      | nil => exact ⟨[], .nil, rfl⟩
      | cons first _ ih =>
        obtain ⟨cells, later, rfl⟩ := ih
        obtain ⟨cell, found, rfl⟩ := Klura.map_ok.mp first
        exact ⟨cell :: cells, .cons (fun _ => cellString_ok _ found) later, rfl⟩
    · rintro ⟨cells, own, rfl⟩
      induction own with
      | nil => exact .nil
      | cons first _ ih =>
        exact .cons (by rw [projectCsvCell, first]; rfl) ih
  rw [projectCsvRow, Klura.map_ok]
  constructor
  · rintro ⟨values, projected, rfl⟩
    obtain ⟨own, found, rfl⟩ := (cells values).mp projected
    exact ⟨own, found, rfl⟩
  · rintro ⟨own, found, rfl⟩
    exact ⟨_, (cells _).mpr ⟨own, found, rfl⟩, rfl⟩

theorem encodedItem_ok {first : Units → OutputFailureV1} (second : Units → OutputFailureV1)
    {item : JsValue} {text : Units} (encoded : encodedItem format columns first item = .ok text) :
    encodedItem format columns second item = .ok text := by
  unfold encodedItem at encoded ⊢
  split at encoded
  · rename_i csv
    rw [if_pos csv, projectCsvRow_iff]
    exact projectCsvRow_iff.mp encoded
  · rename_i other
    rw [if_neg other]
    exact encoded

theorem TextsOf.refused {first : Units → OutputFailureV1} {items : List OutputItemV1}
    {texts : List Units} (own : TextsOf format columns first items texts)
    (second : Units → OutputFailureV1) : TextsOf format columns second items texts :=
  List.Forall₂.imp (fun _ _ encoded => encodedItem_ok second encoded) own

theorem create_eq {csvColumns : Option (List OutputColumnV1)}
    (declared : format = .csv → csvColumns = some columns) {maxOutputBytes : Nat}
    (positive : 0 < maxOutputBytes) :
    SinkV1.create format csvColumns maxOutputBytes =
      if maxOutputBytes < (encodeUtf8 (documentText format columns [])).length then
        .error (.sink .outputBudgetExhausted (ascii "declared output byte budget is exhausted"))
      else .ok (sinkOf format columns csvColumns maxOutputBytes []) := by
  have given : ¬(format = .csv ∧ csvColumns.isNone) := by
    rintro ⟨csv, none⟩
    rw [declared csv] at none
    nomatch none
  have text : SinkV1.initialPrefix format csvColumns = .ok (documentText format columns []) := by
    cases format with
    | json => rfl
    | ndjson => rfl
    | csv =>
      rw [declared rfl]
      simp [SinkV1.initialPrefix, documentText, openText, closingText]
  have budget : ¬maxOutputBytes < 1 := by omega
  have written := writeBytes_end [] (encodeUtf8 (documentText format columns []))
  unfold SinkV1.create
  simp only [given, if_false, budget, text, bind, Except.bind, pure, Except.pure, SinkV1.reserve,
    Nat.zero_add, encodeUtf8_length]
  by_cases long : maxOutputBytes < utf8Length (documentText format columns [])
  · rw [if_pos long, if_pos long]
  · rw [if_neg long, if_neg long]
    rw [List.length_nil, List.nil_append] at written
    simp only [written, sinkOf, encodeUtf8_length, List.length_nil]

/-- An empty export. -/
def emptyExport : ExportV1 := { file := [], bytesWritten := 0, itemsWritten := 0 }

/-- What closes an export. -/
def closeExport (format : RunOutputFormatV1) (maxOutputBytes : Nat) (written : ExportV1) :
    Except OutputFailureV1 ExportV1 :=
  if format = .json then written.write maxOutputBytes (closingText format) else .ok written

theorem export_eq {csvColumns : Option (List OutputColumnV1)}
    (declared : format = .csv → csvColumns = some columns) (maxOutputBytes : Nat)
    (items : List OutputItemV1) :
    exportCommittedRunItems format csvColumns maxOutputBytes items =
      emptyExport.write maxOutputBytes (openText format columns []) >>= fun opened =>
        opened.writeItems maxOutputBytes (renderOf format columns) items >>=
          closeExport format maxOutputBytes := by
  have kept (result : Except OutputFailureV1 ExportV1) : result >>= Except.ok = result := by
    cases result <;> rfl
  cases format with
  | json => rfl
  | ndjson =>
    have opened : emptyExport.write maxOutputBytes (openText .ndjson columns []) = .ok emptyExport := by
      have fits : ¬maxOutputBytes < 0 := Nat.not_lt_zero _
      simp [ExportV1.write, openText, emptyExport, encodeUtf8, codePoints, fits]
    rw [opened]
    exact (kept _).symm
  | csv =>
    have header : openText .csv columns [] = headerText columns := by simp [openText]
    rw [declared rfl, header]
    unfold exportCommittedRunItems
    dsimp only
    exact congrArg _ (funext fun _ => (kept _).symm)

theorem document_grows (texts : List Units) (text : Units) :
    (encodeUtf8 (documentText format columns texts)).length ≤
      (encodeUtf8 (documentText format columns (texts ++ [text]))).length := by
  rw [document_length_concat]
  omega

theorem open_grows (texts : List Units) (text : Units) :
    (encodeUtf8 (openText format columns texts)).length ≤
      (encodeUtf8 (openText format columns (texts ++ [text]))).length := by
  rw [encode_open_concat, List.length_append]
  omega

/-- The file of an export is the one with the texts of the items, when it is not too long. -/
theorem export_iff {csvColumns : Option (List OutputColumnV1)}
    (declared : format = .csv → csvColumns = some columns) (maxOutputBytes : Nat)
    (items : List OutputItemV1) (bytes : Bytes) :
    (∃ exported, exportCommittedRunItems format csvColumns maxOutputBytes items = .ok exported ∧
        exported.file = bytes) ↔
      ∃ texts, TextsOf format columns (.result .csvProjectionInvalid) items texts ∧
        (encodeUtf8 (documentText format columns texts)).length ≤ maxOutputBytes ∧
        bytes = encodeUtf8 (documentText format columns texts) := by
  have opened : emptyExport.write maxOutputBytes (openText format columns []) =
      if maxOutputBytes < (encodeUtf8 (openText format columns [])).length then
        .error (.result .outputBudgetExhausted (ascii "declared output byte budget is exhausted"))
      else .ok (exportOf format columns []) := by
    simp [ExportV1.write, emptyExport, exportOf]
  have within (texts : List Units) : (encodeUtf8 (openText format columns texts)).length ≤
      (encodeUtf8 (documentText format columns texts)).length := by
    rw [documentText, encode_closing, List.length_append]
    omega
  rw [export_eq declared, opened]
  by_cases long : maxOutputBytes < (encodeUtf8 (openText format columns [])).length
  · rw [if_pos long]
    constructor
    · rintro ⟨_, ⟨⟩, -⟩
    · rintro ⟨texts, -, fits, -⟩
      have reached := bytes_grow (@open_grows format columns) [] texts
      exact absurd ((reached.trans (within texts)).trans fits) (Nat.not_le.mpr long)
  rw [if_neg long]
  have written (final : ExportV1) :
      (exportOf format columns []).writeItems maxOutputBytes (renderOf format columns) items =
          .ok final ↔
        ∃ texts, TextsOf format columns (.result .csvProjectionInvalid) items texts ∧
          (encodeUtf8 (openText format columns texts)).length ≤ maxOutputBytes ∧
          final = exportOf format columns texts :=
    foldlM_texts (fun texts item => exportOf_writeItem maxOutputBytes texts item.val) open_grows items
      [] (Nat.le_of_not_lt long) final
  have closed (texts : List Units)
      (fits : (encodeUtf8 (openText format columns texts)).length ≤ maxOutputBytes) :
      (∃ exported, closeExport format maxOutputBytes (exportOf format columns texts) = .ok exported ∧
        exported.file = bytes) ↔
      (encodeUtf8 (documentText format columns texts)).length ≤ maxOutputBytes ∧
        bytes = encodeUtf8 (documentText format columns texts) := by
    rw [documentText, encode_closing]
    unfold closeExport
    by_cases json : format = .json
    · rw [if_pos json]
      by_cases large : maxOutputBytes < (encodeUtf8 (openText format columns texts)).length +
          (encodeUtf8 (closingText format)).length
      · simp [ExportV1.write, exportOf, large]
      · simp [ExportV1.write, exportOf, large, Nat.le_of_not_lt large, eq_comm]
    · have nothing : encodeUtf8 (closingText format) = [] := by
        rw [closingText, if_neg json]
        rfl
      rw [if_neg json, nothing, List.append_nil]
      simp [exportOf, fits, eq_comm]
  constructor
  · rintro ⟨exported, ran, same⟩
    obtain ⟨_, ⟨⟩, ran⟩ := Klura.bind_ok.mp ran
    obtain ⟨between, wrote, ended⟩ := Klura.bind_ok.mp ran
    obtain ⟨texts, own, fits, rfl⟩ := (written between).mp wrote
    exact ⟨texts, own, (closed _ fits).mp ⟨exported, ended, same⟩⟩
  · rintro ⟨texts, own, fits⟩
    have inside := (within texts).trans fits.1
    obtain ⟨exported, ended, same⟩ := (closed texts inside).mpr fits
    have wrote := (written _).mpr ⟨texts, own, inside, rfl⟩
    exact ⟨exported, Klura.bind_ok.mpr ⟨_, rfl, Klura.bind_ok.mpr ⟨_, wrote, ended⟩⟩, same⟩

theorem sink_iff {csvColumns : Option (List OutputColumnV1)}
    (declared : format = .csv → csvColumns = some columns) {maxOutputBytes : Nat}
    (positive : 0 < maxOutputBytes) (items : List OutputItemV1) (sink : SinkV1) :
    (SinkV1.create format csvColumns maxOutputBytes >>= fun sink => sink.writeAll items) = .ok sink ↔
      ∃ texts, TextsOf format columns (.sink .csvProjectionInvalid) items texts ∧
        (encodeUtf8 (documentText format columns texts)).length ≤ maxOutputBytes ∧
        sink = sinkOf format columns csvColumns maxOutputBytes texts := by
  rw [create_eq declared positive]
  by_cases long : maxOutputBytes < (encodeUtf8 (documentText format columns [])).length
  · rw [if_pos long]
    constructor
    · exact nofun
    · rintro ⟨texts, -, fits, -⟩
      have reached := bytes_grow (@document_grows format columns) [] texts
      exact absurd (reached.trans fits) (Nat.not_le.mpr long)
  · rw [if_neg long]
    exact foldlM_texts (fun texts item => sinkOf_write declared maxOutputBytes texts item.val)
      document_grows items [] (Nat.le_of_not_lt long) sink

/-- A file is a document of its format: it is read back as the items, or split into their cells, in
which each half of a pair is replaced. -/
def IsDocument (format : RunOutputFormatV1) (columns : List OutputColumnV1)
    (items : List OutputItemV1) (file : Bytes) : Prop :=
  match format with
  | .json => ∃ depth value, parseFile file [] file.length depth = .ok value ∧
      value.Same (.array (items.map Subtype.val))
  | .ndjson => ∃ lines : List Units, decodeUtf8 file = (lines.flatMap fun line => line ++ [10]) ∧
      List.Forall₂ (fun item line => 10 ∉ line ∧ ∃ depth value,
        parseStrictJson [] depth line (utf8Length line) = .ok value ∧ value.Same item.val) items lines
  | .csv => ∃ rows, List.Forall₂ (fun item cells => CellsOf columns item.val cells) items rows ∧
      splitCsv (decodeUtf8 file) =
        some (((columns.map OutputColumnV1.name) :: rows).map fun cells => cells.map toWellFormed)

/-- A CSV file is split into the cells of its items. -/
theorem csv_document {refused : Units → OutputFailureV1} {items : List OutputItemV1}
    {texts : List Units} (inhabited : columns ≠ []) (own : TextsOf .csv columns refused items texts) :
    IsDocument .csv columns items (encodeUtf8 (documentText .csv columns texts)) := by
  have projected : ∃ rows,
      List.Forall₂ (fun item cells => CellsOf columns item.val cells) items rows ∧
        (texts.flatMap fun text => text ++ [10]) = rows.flatMap recordText := by
    induction own with
    | nil => exact ⟨[], .nil, rfl⟩
    | cons first _ ih =>
      obtain ⟨rows, others, same⟩ := ih
      obtain ⟨cells, found, rfl⟩ := projectCsvRow_iff.mp first
      exact ⟨cells :: rows, .cons found others, by rw [List.flatMap_cons, same]; rfl⟩
  obtain ⟨rows, found, written⟩ := projected
  have header : headerText columns = recordText (columns.map OutputColumnV1.name) := by
    rw [headerText, recordText, List.map_map]
    rfl
  have whole : documentText .csv columns texts =
      ((columns.map OutputColumnV1.name) :: rows).flatMap recordText := by
    simp [documentText, openText, closingText, header, written]
  -- Every record has as many fields as there are columns, so none is empty.
  have wide : ∀ cells ∈ rows, cells.length = columns.length := by
    clear written whole own
    induction found with
    | nil => exact fun _ member => absurd member List.not_mem_nil
    | cons first _ ih =>
      intro cells member
      rcases List.mem_cons.mp member with rfl | later
      · exact first.length_eq.symm
      · exact ih cells later
  refine ⟨rows, found, ?_⟩
  rw [whole, decodeUtf8_wellFormed, toWellFormed_records]
  apply splitCsv_records
  intro fields member empty
  obtain ⟨cells, among, rfl⟩ := List.mem_map.mp member
  rw [List.map_eq_nil_iff] at empty
  rcases List.mem_cons.mp among with rfl | row
  · exact inhabited (List.map_eq_nil_iff.mp empty)
  · have length := wide cells row
    rw [empty] at length
    exact inhabited (List.length_eq_zero_iff.mp length.symm)

theorem texts_canonical {refused : Units → OutputFailureV1} (other : format ≠ .csv)
    {items : List OutputItemV1} {texts : List Units}
    (own : TextsOf format columns refused items texts) :
    texts = items.map fun item => (syntaxOf item.val).text := by
  induction own with
  | nil => rfl
  | @cons item _ _ _ first _ ih =>
    rw [encodedItem, if_neg other] at first
    cases rendered : StrictJson.canonicalJson item.val with
    | error error =>
      rw [itemText, rendered] at first
      nomatch first
    | ok text =>
      rw [itemText, rendered] at first
      cases first
      rw [List.map_cons, ← ih, canonicalJson_text item.property rendered]

theorem joinComma_eq (texts : List Units) : joinComma texts = [44].intercalate texts := by
  induction texts with
  | nil => rfl
  | cons first rest ih =>
    cases rest with
    | nil => simp [joinComma]
    | cons second rest => rw [joinComma, ih, List.intercalate_cons_cons]; simp

theorem json_document {refused : Units → OutputFailureV1} {items : List OutputItemV1}
    {texts : List Units} (own : TextsOf .json columns refused items texts) :
    IsDocument .json columns items (encodeUtf8 (documentText .json columns texts)) := by
  have stored : encodeUtf8 (documentText .json columns texts) =
      storedBytes (.array (items.map Subtype.val)) := by
    rw [storedBytes, syntaxOf_array, arraySyntax_text, joinComma_eq,
      texts_canonical (by decide) own]
    simp [documentText, openText, closingText, Function.comp_def]
  have json : (JsValue.array (items.map Subtype.val)).IsJson := by
    rw [JsValue.isJson_array]
    intro value member
    obtain ⟨item, -, rfl⟩ := List.mem_map.mp member
    exact item.property
  obtain ⟨value, read, same⟩ := parseFile_stored json (Nat.le_refl _) (Nat.le_refl _) []
  refine ⟨(JsValue.array (items.map Subtype.val)).depth, value, ?_, same⟩
  rw [stored, storedBytes_length]
  exact read

theorem ndjson_document {refused : Units → OutputFailureV1} {items : List OutputItemV1}
    {texts : List Units} (own : TextsOf .ndjson columns refused items texts) :
    IsDocument .ndjson columns items (encodeUtf8 (documentText .ndjson columns texts)) := by
  obtain rfl := texts_canonical (by decide) own
  refine ⟨items.map fun item => (syntaxOf item.val).text, ?_, ?_⟩
  · have paired : ∀ items : List OutputItemV1, WellPaired
        ((items.map fun item => (syntaxOf item.val).text).flatMap fun text => text ++ [10]) := by
      intro items
      induction items with
      | nil => exact .nil
      | cons item items ih =>
        have line_break : WellPaired [10] := .of_small (forall_of_all (by decide))
        exact ((syntaxOf_wellPaired item.val).append line_break).append ih
    have whole : documentText .ndjson columns (items.map fun item => (syntaxOf item.val).text) =
        (items.map fun item => (syntaxOf item.val).text).flatMap fun text => text ++ [10] := by
      simp [documentText, openText, closingText]
    rw [whole]
    exact decodeUtf8_encodeUtf8 (paired items)
  · clear own
    induction items with
    | nil => exact .nil
    | cons item items ih =>
      have read := parseStrictJson_canonical item.property (Nat.le_refl _) [] (Nat.le_refl _)
      exact .cons ⟨(syntaxOf_printed _).no_break, _, _, read, syntaxOf_value item.property⟩ ih

theorem document_of_texts {refused : Units → OutputFailureV1} {items : List OutputItemV1}
    {texts : List Units} (inhabited : format = .csv → columns ≠ [])
    (own : TextsOf format columns refused items texts) :
    IsDocument format columns items (encodeUtf8 (documentText format columns texts)) := by
  cases format with
  | json => exact json_document own
  | ndjson => exact ndjson_document own
  | csv => exact csv_document (inhabited rfl) own

theorem TextsOf.unique {items : List OutputItemV1} {first second : List Units}
    {refused : Units → OutputFailureV1} (own : TextsOf format columns refused items first)
    (other : TextsOf format columns refused items second) : first = second := by
  induction own generalizing second with
  | nil =>
    cases other
    rfl
  | cons begins _ ih =>
    cases other with
    | cons same rest =>
      rw [begins] at same
      cases same
      rw [ih rest]

/-- The sink that items are written to one by one. -/
def writtenSink (format : RunOutputFormatV1) (csvColumns : Option (List OutputColumnV1))
    (maxOutputBytes : Nat) (items : List OutputItemV1) : Except OutputFailureV1 SinkV1 :=
  SinkV1.create format csvColumns maxOutputBytes >>= fun sink => sink.writeAll items

/-- Any number of items written to a sink one by one leave a document of its format, the length of
which the sink knows, with the bytes that an export writes of the items within the same budget or
any other; and an export succeeds exactly when a sink takes all the items. -/
theorem sink_renders_export {csvColumns : Option (List OutputColumnV1)}
    (declared : format = .csv → csvColumns = some columns ∧ columns ≠ []) {maxOutputBytes : Nat}
    (positive : 0 < maxOutputBytes) (items : List OutputItemV1) :
    (∀ sink, writtenSink format csvColumns maxOutputBytes items = .ok sink →
      sink.bytesWritten = sink.file.length ∧ IsDocument format columns items sink.file ∧
        ∀ budget exported, exportCommittedRunItems format csvColumns budget items = .ok exported →
          exported.file = sink.file) ∧
    ∀ file, (∃ sink, writtenSink format csvColumns maxOutputBytes items = .ok sink ∧
        sink.file = file) ↔
      ∃ exported, exportCommittedRunItems format csvColumns maxOutputBytes items = .ok exported ∧
        exported.file = file := by
  have given : format = .csv → csvColumns = some columns := fun csv => (declared csv).1
  constructor
  · intro sink ran
    obtain ⟨texts, own, -, rfl⟩ := (sink_iff given positive items sink).mp ran
    refine ⟨rfl, document_of_texts (fun csv => (declared csv).2) own, ?_⟩
    intro budget exported wrote
    obtain ⟨others, same, -, file⟩ := (export_iff given budget items _).mp ⟨exported, wrote, rfl⟩
    rw [file, (own.refused _).unique same]
    rfl
  · intro file
    rw [export_iff given]
    constructor
    · rintro ⟨sink, ran, rfl⟩
      obtain ⟨texts, own, fits, rfl⟩ := (sink_iff given positive items sink).mp ran
      exact ⟨texts, own.refused _, fits, rfl⟩
    · rintro ⟨texts, own, fits, rfl⟩
      have ran := (sink_iff given positive items _).mpr ⟨texts, own.refused _, fits, rfl⟩
      exact ⟨_, ran, rfl⟩

/-- A column whose pointer finds the item itself. -/
def wholeColumn : OutputColumnV1 := { name := ascii "item", pointer := .ok }

/-- An item with a cell in quotes and a comma is written and exported. -/
theorem sink_renders_export_cell :
    (RunOutputFormatV1.csv = .csv → some [wholeColumn] = some [wholeColumn] ∧ [wholeColumn] ≠ []) ∧
    0 < 64 ∧
    ∃ sink, writtenSink .csv (some [wholeColumn]) 64 [⟨.string (ascii "a\",b"), trivial⟩] = .ok sink ∧
      sink.bytesWritten = sink.file.length ∧
      sink.file = [34, 105, 116, 101, 109, 34, 10, 34, 97, 34, 34, 44, 98, 34, 10] := by
  have declared : RunOutputFormatV1.csv = .csv →
      some [wholeColumn] = some [wholeColumn] ∧ [wholeColumn] ≠ [] := fun _ => ⟨rfl, nofun⟩
  have rendered := sink_renders_export declared (show 0 < 64 by decide)
    [⟨.string (ascii "a\",b"), trivial⟩]
  have file : (writtenSink .csv (some [wholeColumn]) 64
      [⟨.string (ascii "a\",b"), trivial⟩]).map SinkV1.file =
        .ok [34, 105, 116, 101, 109, 34, 10, 34, 97, 34, 34, 44, 98, 34, 10] := by
    decide +kernel
  obtain ⟨sink, ran, same⟩ := Klura.map_ok.mp file
  exact ⟨declared, by decide, sink, ran, (rendered.1 sink ran).1, same⟩

/-- A cell with half of a pair is split from the file with a replacement in its place. -/
theorem lone_half_replaced : ¬∀ (columns : List OutputColumnV1) (items : List OutputItemV1)
    (maxOutputBytes : Nat) (sink : SinkV1) (rows : List (List Units)),
    writtenSink .csv (some columns) maxOutputBytes items = .ok sink →
    List.Forall₂ (fun item cells => CellsOf columns item.val cells) items rows →
    splitCsv (decodeUtf8 sink.file) = some (columns.map OutputColumnV1.name :: rows) := by
  intro recovered
  have split : (writtenSink .csv (some [wholeColumn]) 64 [⟨.string [0xD800], trivial⟩]).map
      (fun sink => splitCsv (decodeUtf8 sink.file)) =
        .ok (some [[ascii "item"], [[0xFFFD]]]) := by
    decide +kernel
  obtain ⟨sink, ran, file⟩ := Klura.map_ok.mp split
  have cells : List.Forall₂ (fun (item : OutputItemV1) cells => CellsOf [wholeColumn] item.val cells)
      [⟨.string [0xD800], trivial⟩] [[[0xD800]]] :=
    .cons (.cons (fun _ => rfl) .nil) .nil
  have same := recovered [wholeColumn] _ 64 sink [[[0xD800]]] ran cells
  rw [file] at same
  revert same
  decide

end OutputFile

end Klura
