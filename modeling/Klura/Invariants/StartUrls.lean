import Klura.Contracts.StartUrl
import Klura.Library.Check

/-! The canonical forms of start URLs: when they are taken again, and that they tell URLs apart. -/

namespace Klura

namespace StartUrl

open StrictJson

/-! Components and pairs that are read back. -/

theorem unescapeBytes_escapeBytes {kept : UInt8 → Bool} (escaped : kept 37 = false)
    (bytes : Bytes) : unescapeBytes (escapeBytes kept bytes) = some bytes := by
  induction bytes with
  | nil => rfl
  | cons byte rest ih =>
    unfold escapeBytes at ih ⊢
    rw [List.flatMap_cons]
    cases keeps : kept byte with
    | true =>
      have plain : byte ≠ 37 := by
        rintro rfl
        rw [escaped] at keeps
        exact absurd keeps (by simp)
      rw [if_pos rfl, List.singleton_append, unescapeBytes.eq_def]
      simp only [if_neg plain, ih, Option.map_some]
    | false =>
      have bound := byte.toNat_lt
      have high := hexValue_upperHex (show byte.toNat / 16 < 16 by omega)
      have low := hexValue_upperHex (show byte.toNat % 16 < 16 by omega)
      rw [if_neg (by simp), percentEncode, List.cons_append, List.cons_append, List.cons_append,
        List.nil_append, unescapeBytes.eq_def]
      simp only [if_true, high, low, ih, Option.map_some, Nat.div_add_mod, UInt8.ofNat_toNat]

theorem decode_of_unescape {bytes : Bytes} {text : Units} (whole : WellPaired text)
    (small : ∀ byte ∈ bytes, byte.toNat < 0x80) (same : unescapeBytes bytes = some (encodeUtf8 text)) :
    decodeURIComponent (bytes.map UInt8.toUInt16) = some text := by
  rw [decodeURIComponent, encodeUtf8_ascii small, same, Option.bind_some,
    decodeUtf8_encodeUtf8 whole, if_pos rfl]

theorem decode_encode {text : Units} (whole : WellPaired text) :
    decodeURIComponent (encodeURIComponent text) = some text :=
  decode_of_unescape whole (fun byte member => by
    have := (componentBytes_codes member).2.1
    omega) (unescapeBytes_escapeBytes rfl _)

theorem decode_whole {component text : Units} (decodes : decodeURIComponent component = some text) :
    WellPaired text := by
  obtain ⟨bytes, -, read⟩ := Option.bind_eq_some_iff.mp decodes
  split at read
  · rw [← Option.some.inj read]
    exact decodeUtf8_wellPaired bytes
  · exact absurd read (by simp)

theorem formBytes_plain (text : Units) : ∀ byte ∈ formBytes text,
    33 ≤ byte.toNat ∧ byte.toNat < 0x80 ∧ byte ≠ 38 ∧ byte ≠ 61 := by
  intro byte member
  obtain ⟨source, inside, rfl⟩ := List.mem_map.mp member
  split
  · decide
  · rename_i filled
    have codes : 33 ≤ source.toNat ∧ source.toNat < 0x80 ∧ source.toNat ≠ 38 ∧ source.toNat ≠ 61 := by
      have other : source.toNat ≠ 32 := fun same => filled (UInt8.toNat_inj.mp same)
      rcases mem_escapeBytes inside with kept | escape
      · simp only [isFormByte, Bool.or_eq_true, decide_eq_true_eq, List.contains_iff_mem] at kept
        simp only [List.mem_cons, List.not_mem_nil, or_false] at kept
        omega
      · unfold isEscapeCode at escape
        omega
    refine ⟨codes.1, codes.2.1, ?_, ?_⟩ <;>
      · rintro rfl
        exact absurd codes (by decide)

theorem decodeQuery_form {text : Units} (whole : WellPaired text) (field : Units) :
    decodeQueryComponent ((formBytes text).map UInt8.toUInt16) field = .ok text := by
  have spaced : ((formBytes text).map UInt8.toUInt16).map
      (fun unit => if unit = 43 then 32 else unit) =
        (escapeBytes isFormByte (encodeUtf8 text)).map UInt8.toUInt16 := by
    rw [formBytes, List.map_map, List.map_map]
    refine List.map_congr_left fun byte member => ?_
    have plus : byte ≠ 43 := by
      rintro rfl
      rcases mem_escapeBytes member with kept | escape
      · exact absurd kept (by decide)
      · exact absurd escape (by unfold isEscapeCode; decide)
    have wide : byte.toUInt16 = 43 ↔ byte = 43 := by
      rw [← UInt16.toNat_inj, ← UInt8.toNat_inj, UInt8.toNat_toUInt16]
      rfl
    by_cases blank : byte = 32
    · simp [blank]
    · simp [blank, wide, plus]
  have small : ∀ byte ∈ escapeBytes isFormByte (encodeUtf8 text), byte.toNat < 0x80 := by
    intro byte member
    rcases mem_escapeBytes member with kept | escape
    · simp only [isFormByte, Bool.or_eq_true, decide_eq_true_eq, List.contains_iff_mem] at kept
      simp only [List.mem_cons, List.not_mem_nil, or_false] at kept
      omega
    · unfold isEscapeCode at escape
      omega
  rw [decodeQueryComponent, spaced, decodeComponent,
    decode_of_unescape whole small (unescapeBytes_escapeBytes rfl _)]

/-- The text of a pair in a form. -/
def pairText (pair : Units × Units) : Units :=
  (formBytes pair.1).map UInt8.toUInt16 ++ 61 :: (formBytes pair.2).map UInt8.toUInt16

theorem form_apart {text : Units} {mark : UInt16} (marks : mark = 38 ∨ mark = 61) :
    mark ∉ (formBytes text).map UInt8.toUInt16 := by
  intro member
  obtain ⟨byte, inside, same⟩ := List.mem_map.mp member
  obtain ⟨-, -, first, second⟩ := formBytes_plain text byte inside
  have code : byte.toNat = mark.toNat := by rw [← same, UInt8.toNat_toUInt16]
  rcases marks with rfl | rfl
  · exact first (UInt8.toNat_inj.mp code)
  · exact second (UInt8.toNat_inj.mp code)

theorem map_intercalate {α β : Type} (convert : α → β) (separator : List α) (parts : List (List α)) :
    (separator.intercalate parts).map convert =
      (separator.map convert).intercalate (parts.map (List.map convert)) := by
  induction parts with
  | nil => rfl
  | cons first rest ih =>
    cases rest with
    | nil => simp
    | cons second later =>
      simp only [List.map_cons] at ih ⊢
      rw [List.intercalate_cons_cons, List.intercalate_cons_cons, List.map_append, List.map_append, ih]

variable {pairs : List (Units × Units)}

theorem joinPairs_split (some : pairs ≠ []) :
    (joinPairs formBytes pairs).splitOn 38 = pairs.map pairText := by
  have units : joinPairs formBytes pairs = [38].intercalate (pairs.map pairText) := by
    rw [joinPairs, map_intercalate, List.map_map]
    congr 1
    refine List.map_congr_left fun pair _ => ?_
    simp [pairText]
  rw [units, List.splitOn_intercalate 38 _ (by simpa using some)]
  intro part member inside
  obtain ⟨pair, -, rfl⟩ := List.mem_map.mp member
  rcases List.mem_append.mp inside with front | back
  · exact form_apart (.inl rfl) front
  · exact form_apart (.inl rfl) ((List.mem_cons.mp back).resolve_left (by decide))

/-! Paths. -/

/-- What a route's segment admits. -/
def Admits : StartUrlPathSegmentV1 → Units → Prop
  | .literal value, segment => segment = value
  | .slot _ minimum maximum, segment =>
    isSafePathSegment segment = true ∧ minimum ≤ utf8Length segment ∧ utf8Length segment ≤ maximum

/-- A piece is parsed as its text just where the route admits it. -/
theorem parseUrlPiece_ok {field place piece segment : Units} {expected : StartUrlPathSegmentV1} :
    parseUrlPiece field place piece expected = .ok segment ↔
      decodeURIComponent piece = some segment ∧ Admits expected segment := by
  unfold parseUrlPiece decodeComponent
  cases decodes : decodeURIComponent piece with
  | none => exact ⟨nofun, nofun⟩
  | some text =>
    cases expected with
    | literal value =>
      by_cases same : text = value
      · simp only [Bind.bind, Except.bind, same, ne_eq, not_true, if_false, Admits,
          Except.ok.injEq, Option.some.injEq]
        exact ⟨fun equal => ⟨equal, equal.symm⟩, fun equal => equal.1⟩
      · simp only [Bind.bind, Except.bind, ne_eq, same, not_false_eq_true, if_true, Admits]
        refine ⟨nofun, fun both => absurd ?_ same⟩
        rw [Option.some.inj both.1, both.2]
    | slot slotId minimum maximum =>
      cases safe : isSafePathSegment text with
      | false =>
        simp only [Bind.bind, Except.bind, assertSafePathSegment, safe, Admits]
        refine ⟨nofun, fun both => ?_⟩
        rw [← Option.some.inj both.1, safe] at both
        exact absurd both.2.1 (by simp)
      | true =>
        simp only [Bind.bind, Except.bind, assertSafePathSegment, safe, if_true]
        by_cases bounds : utf8Length text < minimum ∨ maximum < utf8Length text
        · rw [if_pos bounds]
          refine ⟨nofun, fun both => ?_⟩
          obtain ⟨-, least, most⟩ := Option.some.inj both.1 ▸ both.2
          omega
        · rw [if_neg bounds]
          constructor
          · rintro ⟨⟩
            exact ⟨rfl, safe, by omega, by omega⟩
          · rintro ⟨same, -⟩
            rw [Option.some.inj same]

variable {segments : List Units} {index : Nat}

theorem parseUrlPieces_ok {field : Units} {expected : List StartUrlPathSegmentV1}
    {pieces : List Units} (counted : pieces.length = expected.length) :
    parseUrlPieces field index pieces expected = .ok segments ↔
      pieces.map decodeURIComponent = segments.map some ∧ List.Forall₂ Admits expected segments := by
  induction pieces generalizing expected segments index with
  | nil =>
    obtain rfl := List.length_eq_zero_iff.mp counted.symm
    cases segments with
    | nil => simp [parseUrlPieces]
    | cons segment rest => simp [parseUrlPieces]
  | cons piece pieces ih =>
    cases expected with
    | nil => exact absurd counted (by simp)
    | cons first others =>
      have counted := Nat.succ.inj counted
      rw [parseUrlPieces, bind_ok]
      constructor
      · rintro ⟨segment, own, passes⟩
        obtain ⟨later, rest, same⟩ := bind_ok.mp passes
        obtain ⟨decodes, admits⟩ := parseUrlPiece_ok.mp own
        obtain ⟨all, each⟩ := (ih counted).mp rest
        cases same
        exact ⟨by rw [List.map_cons, List.map_cons, decodes, all], .cons admits each⟩
      · rintro ⟨all, each⟩
        obtain ⟨segment, later, admits, rest, rfl⟩ := List.forall₂_cons_left_iff.mp each
        obtain ⟨decodes, others⟩ := List.cons.inj all
        exact ⟨segment, parseUrlPiece_ok.mpr ⟨decodes, admits⟩,
          bind_ok.mpr ⟨later, (ih counted).mpr ⟨others, rest⟩, rfl⟩⟩

variable {parts : List Units}

theorem flatMap_slashed (some : parts ≠ []) :
    parts.flatMap (fun part => 47 :: part) = 47 :: [47].intercalate parts := by
  induction parts with
  | nil => exact absurd rfl some
  | cons first rest ih =>
    cases rest with
    | nil => simp
    | cons second later => rw [List.flatMap_cons, ih (by simp), List.intercalate_cons_cons]; simp

theorem encode_plain {text : Units} : (47 : UInt16) ∉ encodeURIComponent text := by
  intro member
  obtain ⟨byte, inside, same⟩ := List.mem_map.mp member
  have code : byte.toNat = 47 := by rw [← UInt8.toNat_toUInt16, same]; rfl
  exact absurd (componentBytes_codes inside).2.2 (by simp [code])

theorem encode_ne_nil {text : Units} (whole : WellPaired text) (some : text ≠ []) :
    encodeURIComponent text ≠ [] := by
  intro empty
  have read := decode_encode whole
  rw [empty] at read
  exact some (Option.some.inj read).symm

theorem intercalate_slash (some : parts ≠ []) :
    [47].intercalate parts ++ [47] = [47].intercalate (parts ++ [[]]) := by
  induction parts with
  | nil => exact absurd rfl some
  | cons first rest ih =>
    cases rest with
    | nil => simp
    | cons second later =>
      have next := ih (by simp)
      rw [List.cons_append] at next
      rw [List.cons_append, List.cons_append, List.intercalate_cons_cons,
        List.intercalate_cons_cons, List.append_assoc, next]

theorem intercalate_last (some : parts ≠ []) (apart : ∀ part ∈ parts, (47 : UInt16) ∉ part)
    (filled : ∀ part ∈ parts, part ≠ []) :
    ([47].intercalate parts).getLast? ≠ .some 47 ∧ [47].intercalate parts ≠ [] := by
  induction parts with
  | nil => exact absurd rfl some
  | cons first rest ih =>
    cases rest with
    | nil =>
      rw [List.intercalate_singleton]
      refine ⟨fun ends => apart first List.mem_cons_self ?_, filled first List.mem_cons_self⟩
      exact List.mem_of_getLast? ends
    | cons second later =>
      obtain ⟨last, some⟩ := ih (by simp) (fun part member => apart part (.tail _ member))
        fun part member => filled part (.tail _ member)
      rw [List.intercalate_cons_cons, List.getLast?_append_of_ne_nil _ some]
      exact ⟨last, by simp⟩

/-- A segment that a route may admit. -/
def Fine (segment : Units) : Prop := isSafePathSegment segment = true ∧ WellPaired segment

/-- The path that segments make up is read as them. -/
theorem parseUrlPath_serialize {path : StartUrlPathV1} (field : Units)
    (admits : List.Forall₂ Admits path.segments segments)
    (fine : ∀ segment ∈ segments, Fine segment)
    (rooted : segments = [] → path.trailingSlash = .required) :
    parseUrlPath (serializePath segments path.trailingSlash) path field = .ok segments := by
  have counted := admits.length_eq
  by_cases none : segments = []
  · have required := rooted none
    subst none
    have bare := List.length_eq_zero_iff.mp counted
    simp [parseUrlPath, serializePath, required, bare, parseUrlPieces]
  · set parts := segments.map encodeURIComponent with defined
    have inhabited : parts ≠ [] := by simpa [defined] using none
    have apart : ∀ part ∈ parts, (47 : UInt16) ∉ part := by
      intro part member
      obtain ⟨segment, -, rfl⟩ := List.mem_map.mp member
      exact encode_plain
    have filled : ∀ part ∈ parts, part ≠ [] := by
      intro part member
      obtain ⟨segment, inside, rfl⟩ := List.mem_map.mp member
      obtain ⟨safe, whole⟩ := fine segment inside
      refine encode_ne_nil whole ?_
      rintro rfl
      exact absurd safe (by decide)
    have pieces : parseUrlPieces field 0 parts path.segments = .ok segments := by
      refine (parseUrlPieces_ok (by simp [defined, counted])).mpr ⟨?_, admits⟩
      rw [defined, List.map_map]
      exact List.map_congr_left fun segment member => decode_encode (fine segment member).2
    have serialized : segments.flatMap (fun segment => 47 :: encodeURIComponent segment) =
        47 :: [47].intercalate parts := by
      rw [← flatMap_slashed inhabited, defined, List.flatMap_map]
    have size : parts.length = path.segments.length := by simp [defined, counted]
    unfold parseUrlPath serializePath
    rw [if_neg none, serialized]
    cases required : path.trailingSlash with
    | required =>
      -- The slash at the end leaves an empty piece behind the others.
      have split : ([47].intercalate parts ++ [47]).splitOn 47 = parts ++ [[]] := by
        rw [intercalate_slash inhabited, List.splitOn_intercalate 47 _ (by simp)]
        intro part member
        rcases List.mem_append.mp member with own | last
        · exact apart part own
        · rw [List.mem_singleton.mp last]
          exact List.not_mem_nil
      have ends : (47 :: ([47].intercalate parts ++ [47])).getLast? = some 47 := by
        rw [← List.cons_append, List.getLast?_concat]
      simp [ends, split, size, pieces]
    | forbidden =>
      have split := List.splitOn_intercalate 47 apart inhabited
      have last := intercalate_last inhabited apart filled
      have ends : (47 :: [47].intercalate parts).getLast? ≠ some 47 := by
        rw [List.getLast?_cons_of_ne_nil last.2]
        exact last.1
      simp [ends, last.2, split, size, pieces]

/-- What a path is read as: segments that the route admits, none only where it ends in a slash. -/
theorem parseUrlPath_ok {pathname field : Units} {path : StartUrlPathV1}
    (slashed : pathname.head? = some 47) (parses : parseUrlPath pathname path field = .ok segments) :
    List.Forall₂ Admits path.segments segments ∧ (∀ segment ∈ segments, WellPaired segment) ∧
      (segments = [] → path.trailingSlash = .required) := by
  unfold parseUrlPath at parses
  dsimp only at parses
  generalize taken : (if (decide (pathname.getLast? = some 47) && !(if pathname.drop 1 = [] then []
    else (pathname.drop 1).splitOn 47).isEmpty) = true then (if pathname.drop 1 = [] then []
    else (pathname.drop 1).splitOn 47).dropLast else if pathname.drop 1 = [] then []
    else (pathname.drop 1).splitOn 47) = pieces at parses
  by_cases slash : decide (pathname.getLast? = some 47) = decide (path.trailingSlash = .required)
  · by_cases counted : pieces.length = path.segments.length
    · rw [if_neg (by simpa using slash), if_neg (by simpa using counted)] at parses
      obtain ⟨decodes, admits⟩ := (parseUrlPieces_ok counted).mp parses
      refine ⟨admits, fun segment member => ?_, ?_⟩
      · obtain ⟨piece, -, read⟩ := List.mem_map.mp (decodes ▸ List.mem_map_of_mem member)
        exact decode_whole read
      · rintro rfl
        have none : pieces = [] := List.map_eq_nil_iff.mp decodes
        obtain ⟨rest, rfl⟩ := List.head?_eq_some_iff.mp slashed
        rw [none, List.drop_succ_cons, List.drop_zero] at taken
        by_cases bare : rest = []
        · rw [bare] at slash
          exact of_decide_eq_true slash.symm
        · -- What is behind the first slash leaves a piece, the slash at its end taken off or not.
          rw [if_neg bare] at taken
          have many := List.splitOn_ne_nil 47 rest
          by_cases ends : (47 :: rest).getLast? = some 47
          · rw [if_pos (by simp [ends, many])] at taken
            rw [List.getLast?_cons_of_ne_nil bare] at ends
            obtain ⟨front, rfl⟩ := List.getLast?_eq_some_iff.mp ends
            rw [List.splitOn_append_cons_self, List.splitOn_nil, List.dropLast_concat] at taken
            exact absurd taken (List.splitOn_ne_nil 47 front)
          · rw [if_neg (by simp [ends])] at taken
            exact absurd taken many
    · rw [if_neg (by simpa using slash), if_pos counted] at parses
      exact absurd parses nofun
  · rw [if_pos slash] at parses
    exact absurd parses nofun

/-! Queries. -/

/-- Values that a query may have, each once: texts of keys that the route declares, in its bounds. -/
def Allowed (query : List StartUrlParameterV1) (values : OrderedMap Units Units) : Prop :=
  values.keys.Nodup ∧ ∀ entry ∈ values, (∃ policy, query.find? (fun parameter =>
      parameter.key == entry.1) = some policy ∧ utf8Length entry.2 ≤ policy.maxValueUtf8Bytes) ∧
    WellPaired entry.1 ∧ WellPaired entry.2

theorem decodeQuery_whole {value field text : Units}
    (decodes : decodeQueryComponent value field = .ok text) : WellPaired text := by
  unfold decodeQueryComponent decodeComponent at decodes
  split at decodes
  · rename_i read
    exact Except.ok.inj decodes ▸ decode_whole read
  · exact absurd decodes nofun

theorem parseUrlEntries_allowed {query : List StartUrlParameterV1} {field : Units}
    {entries : List Units} {values all : OrderedMap Units Units} (allowed : Allowed query values)
    (parses : parseUrlEntries query field index values entries = .ok all) : Allowed query all := by
  induction entries generalizing index values with
  | nil => exact Except.ok.inj parses ▸ allowed
  | cons entry rest ih =>
    rw [parseUrlEntries] at parses
    obtain ⟨key, named, parses⟩ := bind_ok.mp parses
    obtain ⟨value, valued, parses⟩ := bind_ok.mp parses
    split at parses
    · exact absurd parses nofun
    · rename_i policy declared
      split_ifs at parses with twice long
      · exact absurd parses nofun
      refine ih ⟨?_, fun other member => ?_⟩ parses
      · have fresh := OrderedMap.get?_eq_none_iff.mp (Option.not_isSome_iff_eq_none.mp twice)
        rw [OrderedMap.set_of_not_mem value fresh, OrderedMap.keys, List.map_append]
        refine List.nodup_append.mpr ⟨allowed.1, by simp, fun first inside second last same => ?_⟩
        obtain rfl : second = key := by simpa using last
        exact fresh (same ▸ inside)
      · rcases OrderedMap.mem_of_mem_set member with own | older
        · rw [own]
          exact ⟨⟨policy, declared, Nat.le_of_not_lt long⟩, decodeQuery_whole named,
            decodeQuery_whole valued⟩
        · exact allowed.2 other older

theorem parseUrlQuery_allowed {search field : Units} {query : List StartUrlParameterV1}
    {values : OrderedMap Units Units} (parses : parseUrlQuery search query field = .ok values) :
    Allowed query values := by
  have none : Allowed query [] := ⟨List.nodup_nil, nofun⟩
  unfold parseUrlQuery at parses
  dsimp only at parses
  generalize (if search.head? = some 63 then search.drop 1 else search) = rawQuery at parses
  split_ifs at parses
  · exact Except.ok.inj parses ▸ none
  · exact parseUrlEntries_allowed none parses

theorem parseUrlEntries_pairs {query : List StartUrlParameterV1} (field : Units)
    {values : OrderedMap Units Units} (allowed : Allowed query (values ++ pairs)) :
    parseUrlEntries query field index values (pairs.map pairText) = .ok (values ++ pairs) := by
  induction pairs generalizing index values with
  | nil => rw [List.map_nil, parseUrlEntries, List.append_nil]
  | cons pair rest ih =>
    obtain ⟨⟨policy, declared, short⟩, named, valued⟩ := allowed.2 pair (by simp)
    have fresh : pair.1 ∉ OrderedMap.keys values := fun member => by
      have distinct := allowed.1
      rw [OrderedMap.keys, List.map_append, List.nodup_append] at distinct
      exact distinct.2.2 _ member _ (by simp) rfl
    -- The first equals sign of the text is the one behind the key.
    have before : ∀ unit ∈ (formBytes pair.1).map UInt8.toUInt16, (unit != 61) = true :=
      fun unit inside => by simpa using fun same : unit = 61 => form_apart (.inr rfl) (same ▸ inside)
    have key : (pairText pair).takeWhile (· != 61) = (formBytes pair.1).map UInt8.toUInt16 := by
      rw [pairText, List.takeWhile_append_of_pos before]
      simp
    have value : ((pairText pair).dropWhile (· != 61)).drop 1 =
        (formBytes pair.2).map UInt8.toUInt16 := by
      rw [pairText, List.dropWhile_append_of_pos before]
      simp
    rw [List.map_cons, parseUrlEntries, key, value, decodeQuery_form named, decodeQuery_form valued]
    simp only [Bind.bind, Except.bind, declared]
    rw [if_neg (by simp [OrderedMap.get?_eq_none_iff.mpr fresh]), if_neg (by omega),
      OrderedMap.set_of_not_mem pair.2 fresh, ih (by simpa using allowed)]
    simp

theorem parseUrlQuery_pairs {query : List StartUrlParameterV1} (field : Units)
    (allowed : Allowed query pairs) :
    parseUrlQuery (searchText (joinPairs formBytes pairs)) query field = .ok pairs := by
  by_cases none : pairs = []
  · rw [none]
    rfl
  · have split := joinPairs_split none
    have some : joinPairs formBytes pairs ≠ [] := fun empty => by
      rw [empty, List.splitOn_nil] at split
      obtain ⟨pair, rest, rfl⟩ := List.exists_cons_of_ne_nil none
      have text := (List.cons.inj split).1
      exact absurd text (by simp [pairText])
    rw [searchText, if_neg some, parseUrlQuery]
    simp only [List.head?_cons, if_true, List.drop_succ_cons, List.drop_zero, if_neg some, split]
    exact parseUrlEntries_pairs field allowed

section Pairs

variable {query : List StartUrlParameterV1} {values : OrderedMap Units Units}

/-- The value of a declared key among the canonical pairs is the one that was given. -/
theorem canonicalPairs_get? (distinct : (query.map StartUrlParameterV1.key).Nodup)
    (allowed : Allowed query values) :
    (OrderedMap.keys (canonicalPairs query values)).Nodup ∧
      ∀ key, OrderedMap.get? (canonicalPairs query values) key = values.get? key := by
  have keys : (OrderedMap.keys (canonicalPairs query values)).Sublist
      (query.map StartUrlParameterV1.key) := by
    clear distinct allowed
    induction query with
    | nil => exact List.Sublist.slnil
    | cons parameter rest ih =>
      rw [canonicalPairs, List.filterMap_cons]
      cases values.get? parameter.key with
      | none => exact ih.cons _
      | some value => exact ih.cons_cons _
  refine ⟨keys.nodup distinct, fun key => ?_⟩
  cases found : values.get? key with
  | none =>
    rw [OrderedMap.get?_eq_none_iff]
    intro member
    obtain ⟨pair, inside, rfl⟩ := List.mem_map.mp member
    obtain ⟨parameter, -, made⟩ := List.mem_filterMap.mp inside
    obtain ⟨value, held, rfl⟩ := Option.map_eq_some_iff.mp made
    rw [held] at found
    exact absurd found (by simp)
  | some value =>
    obtain ⟨⟨policy, declared, -⟩, -, -⟩ := allowed.2 _ (OrderedMap.mem_of_get? found)
    obtain rfl : policy.key = key := by simpa using List.find?_some declared
    refine OrderedMap.get?_of_mem (keys.nodup distinct) (List.mem_filterMap.mpr ⟨policy, ?_, ?_⟩)
    · exact List.mem_of_find?_eq_some declared
    · rw [found]
      rfl

theorem canonicalPairs_allowed (distinct : (query.map StartUrlParameterV1.key).Nodup)
    (allowed : Allowed query values) : Allowed query (canonicalPairs query values) ∧
      canonicalPairs query (canonicalPairs query values) = canonicalPairs query values := by
  obtain ⟨once, same⟩ := canonicalPairs_get? distinct allowed
  refine ⟨⟨once, fun entry member => ?_⟩, ?_⟩
  · have held := OrderedMap.get?_of_mem once member
    rw [same] at held
    exact allowed.2 entry (OrderedMap.mem_of_get? held)
  · conv_lhs => rw [canonicalPairs]
    simp only [same]
    rfl

end Pairs

/-! Routes and the URLs that they admit. -/

section Routes

variable {urls : UrlClass} {template : StartUrlTemplateV1} {field text : Units}

theorem parseInteger_least {value : JsValue} {minimum maximum integer : Nat}
    (parses : StrictJson.parseInteger value field minimum maximum = .ok integer) :
    minimum ≤ integer := by
  unfold StrictJson.parseInteger at parses
  dsimp only at parses
  split at parses
  · split_ifs at parses with fits
    exact Except.ok.inj parses ▸ fits.2.2.2.1
  · exact absurd parses nofun

/-- What is known of a route that is parsed. -/
structure Parsed (urls : UrlClass) (template : StartUrlTemplateV1) : Prop where
  origin : ∃ base, urls.parse template.origin = some base ∧ base.protocol = ascii "https:" ∧
    base.origin = template.origin
  literals : ∀ value, .literal value ∈ template.path.segments → isSafePathSegment value = true
  slots : ∀ id minimum maximum, .slot id minimum maximum ∈ template.path.segments →
    1 ≤ minimum ∧ minimum ≤ maximum
  distinct : (template.query.map StartUrlParameterV1.key).Nodup

/-- A URL of a route's origin, without credentials and fragment, that is read as these segments and
values. -/
def Decodes (urls : UrlClass) (template : StartUrlTemplateV1) (field text : Units)
    (segments : List Units) (values : OrderedMap Units Units) : Prop :=
  ∃ url, urls.parse text = some url ∧ url.protocol = ascii "https:" ∧
    url.origin = template.origin ∧ url.username = [] ∧ url.password = [] ∧ url.hash = [] ∧
    parseUrlPath url.pathname template.path field = .ok segments ∧
    parseUrlQuery url.search template.query field = .ok values

/-- The canonical form that a route gives segments and values. -/
def canonicalOf (urls : UrlClass) (template : StartUrlTemplateV1) (segments : List Units)
    (values : OrderedMap Units Units) : Units :=
  urls.canonical template.origin (serializePath segments template.path.trailingSlash)
    (canonicalPairs template.query values)

/-- A route that is parsed has a secure origin, safe literals, slots and distinct keys. -/
theorem parseStartUrlTemplate_parsed {value : JsValue}
    (parses : parseStartUrlTemplate urls value field = .ok template) : Parsed urls template := by
  obtain ⟨fields, -, parses⟩ := bind_ok.mp parses
  obtain ⟨id, -, parses⟩ := bind_ok.mp parses
  obtain ⟨origin, secure, parses⟩ := bind_ok.mp parses
  obtain ⟨path, route, parses⟩ := bind_ok.mp parses
  obtain ⟨query, keyed, parses⟩ := bind_ok.mp parses
  obtain rfl := Except.ok.inj parses
  have segment : ∀ value ∈ path.segments, ∃ item place, parsePathSegment item place = .ok value := by
    obtain ⟨fields, -, route⟩ := bind_ok.mp route
    obtain ⟨items, -, route⟩ := bind_ok.mp route
    obtain ⟨trailingSlash, -, route⟩ := bind_ok.mp route
    obtain ⟨segments, elements, route⟩ := bind_ok.mp route
    obtain rfl := Except.ok.inj route
    exact parseElements_ok elements
  refine ⟨?_, fun value member => ?_, fun slotId minimum maximum member => ?_, ?_⟩
  · obtain ⟨text, -, secure⟩ := bind_ok.mp secure
    split at secure
    · cases secure
    · rename_i url read
      split_ifs at secure with refused
      · cases secure
      · simp only [not_or, not_not, ne_eq] at refused
        obtain rfl := Except.ok.inj secure
        exact ⟨url, refused.2.2.2.2.2.2 ▸ read, refused.1, rfl⟩
  · obtain ⟨item, place, parsed⟩ := segment _ member
    unfold parsePathSegment at parsed
    split at parsed
    · split_ifs at parsed
      · obtain ⟨_, -, parsed⟩ := bind_ok.mp parsed
        obtain ⟨literal, -, parsed⟩ := bind_ok.mp parsed
        obtain ⟨_, safe, parsed⟩ := bind_ok.mp parsed
        cases Except.ok.inj parsed
        unfold assertSafePathSegment at safe
        split_ifs at safe with holds
        · exact holds
        · cases safe
      · obtain ⟨_, -, parsed⟩ := bind_ok.mp parsed
        obtain ⟨_, -, parsed⟩ := bind_ok.mp parsed
        obtain ⟨_, -, parsed⟩ := bind_ok.mp parsed
        obtain ⟨_, -, parsed⟩ := bind_ok.mp parsed
        cases Except.ok.inj parsed
      · cases parsed
    · cases parsed
  · obtain ⟨item, place, parsed⟩ := segment _ member
    unfold parsePathSegment at parsed
    split at parsed
    · split_ifs at parsed
      · obtain ⟨_, -, parsed⟩ := bind_ok.mp parsed
        obtain ⟨_, -, parsed⟩ := bind_ok.mp parsed
        obtain ⟨_, -, parsed⟩ := bind_ok.mp parsed
        cases Except.ok.inj parsed
      · obtain ⟨_, -, parsed⟩ := bind_ok.mp parsed
        obtain ⟨least, low, parsed⟩ := bind_ok.mp parsed
        obtain ⟨most, high, parsed⟩ := bind_ok.mp parsed
        obtain ⟨_, -, parsed⟩ := bind_ok.mp parsed
        cases Except.ok.inj parsed
        exact ⟨(parseInteger_least low), (parseInteger_least high)⟩
      · cases parsed
    · cases parsed
  · obtain ⟨items, -, keyed⟩ := bind_ok.mp keyed
    obtain ⟨parameters, -, keyed⟩ := bind_ok.mp keyed
    split_ifs at keyed with ascending
    · obtain rfl := Except.ok.inj keyed
      -- Keys of different bytes are different.
      have apart := (List.isChain_iff_pairwise.mp ascending).imp fun less => ne_of_lt less
      refine List.Nodup.of_map (fun key : Units => (encodeUtf8 key).map UInt8.toNat) ?_
      rw [List.map_map]
      exact apart
    · cases keyed

/-- A URL is admitted when it is short enough and is read as segments and values. -/
theorem validateStartUrl_ok {canonical : Units} :
    validateStartUrl urls template (.string text) field = .ok canonical ↔
      utf8Length text ≤ MAX_STRING_BYTES ∧ ∃ segments values,
        Decodes urls template field text segments values ∧
          canonical = canonicalOf urls template segments values := by
  unfold validateStartUrl StrictJson.parseString
  dsimp only
  by_cases long : MAX_STRING_BYTES < utf8Length text
  · rw [if_pos long]
    exact ⟨nofun, fun both => absurd both.1 (by omega)⟩
  rw [if_neg long]
  simp only [Bind.bind, Except.bind]
  cases read : urls.parse text with
  | none =>
    refine ⟨nofun, ?_⟩
    rintro ⟨-, _, _, ⟨url, found, -⟩, -⟩
    rw [read] at found
    exact absurd found (by simp)
  | some url =>
    dsimp only
    by_cases own : url.protocol ≠ ascii "https:" ∨ url.origin ≠ template.origin ∨
        url.username ≠ [] ∨ url.password ≠ [] ∨ url.hash ≠ []
    · rw [if_pos own]
      refine ⟨nofun, ?_⟩
      rintro ⟨-, _, _, ⟨other, found, protocol, origin, username, password, hash, -⟩, -⟩
      obtain rfl := Option.some.inj (read.symm.trans found)
      simp [protocol, origin, username, password, hash] at own
    · rw [if_neg own]
      simp only [not_or, ne_eq, not_not] at own
      obtain ⟨protocol, origin, username, password, hash⟩ := own
      constructor
      · intro passes
        obtain ⟨segments, path, passes⟩ := bind_ok.mp passes
        obtain ⟨values, query, same⟩ := bind_ok.mp passes
        exact ⟨by omega, segments, values,
          ⟨url, read, protocol, origin, username, password, hash, path, query⟩,
          (Except.ok.inj same).symm⟩
      · rintro ⟨-, segments, values, ⟨other, found, -, -, -, -, -, path, query⟩, rfl⟩
        obtain rfl := Option.some.inj (read.symm.trans found)
        exact bind_ok.mpr ⟨segments, path, bind_ok.mpr ⟨values, query, rfl⟩⟩

variable {segments : List Units}

theorem Decodes.unique {others : List Units} {values more : OrderedMap Units Units}
    (first : Decodes urls template field text segments values)
    (second : Decodes urls template field text others more) :
    segments = others ∧ values = more := by
  obtain ⟨url, read, -, -, -, -, -, path, query⟩ := first
  obtain ⟨other, again, -, -, -, -, -, pathname, search⟩ := second
  obtain rfl := Option.some.inj (read.symm.trans again)
  exact ⟨Except.ok.inj (path.symm.trans pathname), Except.ok.inj (query.symm.trans search)⟩

theorem Decodes.path {segments : List Units} {values : OrderedMap Units Units}
    (parsed : Parsed urls template) (decodes : Decodes urls template field text segments values) :
    List.Forall₂ Admits template.path.segments segments ∧ (∀ segment ∈ segments, Fine segment) ∧
      (segments = [] → template.path.trailingSlash = .required) := by
  obtain ⟨url, read, protocol, -, -, -, -, path, -⟩ := decodes
  obtain ⟨admits, whole, rooted⟩ := parseUrlPath_ok (urls.slashed read protocol) path
  refine ⟨admits, fun segment member => ⟨?_, whole segment member⟩, rooted⟩
  obtain ⟨expected, among, fits⟩ : ∃ expected ∈ template.path.segments, Admits expected segment := by
    obtain ⟨index, inside, same⟩ := List.mem_iff_getElem.mp member
    have before : index < template.path.segments.length := admits.length_eq ▸ inside
    exact ⟨_, List.getElem_mem before, same ▸ admits.get before inside⟩
  cases expected with
  | literal value => exact fits ▸ parsed.literals value among
  | slot id minimum maximum => exact fits.1

theorem decodes_canonical (parsed : Parsed urls template) (field : Units)
    {values : OrderedMap Units Units} (admits : List.Forall₂ Admits template.path.segments segments)
    (fine : ∀ segment ∈ segments, Fine segment)
    (rooted : segments = [] → template.path.trailingSlash = .required)
    (allowed : Allowed template.query values) :
    Decodes urls template field (canonicalOf urls template segments values) segments
        (canonicalPairs template.query values) ∧
      canonicalOf urls template segments values = template.origin ++
        serializePath segments template.path.trailingSlash ++
          searchText (joinPairs formBytes (canonicalPairs template.query values)) := by
  obtain ⟨base, read, protocol, origin⟩ := parsed.origin
  have pairs := (canonicalPairs_allowed parsed.distinct allowed).1
  obtain ⟨written, again⟩ := urls.written read protocol origin segments
    template.path.trailingSlash (canonicalPairs template.query values) fine
    fun pair member => (pairs.2 pair member).2
  refine ⟨⟨_, (written ▸ again : urls.parse (canonicalOf urls template segments values) = _), rfl,
    rfl, rfl, rfl, rfl, ?_, ?_⟩, written⟩
  · exact parseUrlPath_serialize field admits fine rooted
  · exact parseUrlQuery_pairs field pairs

/-- Whether the canonical form of segments and values is short enough to be taken again. -/
def Short (template : StartUrlTemplateV1) (segments : List Units) (values : OrderedMap Units Units) :
    Prop :=
  utf8Length template.origin + (serializePath segments template.path.trailingSlash).length +
    (searchText (joinPairs formBytes (canonicalPairs template.query values))).length ≤
      MAX_STRING_BYTES

/-- The shortest segment that a route's segment admits. -/
def shortest : StartUrlPathSegmentV1 → Units
  | .literal value => value
  | .slot _ minimum _ => List.replicate minimum 97

/-- Whether some URL may have the segments of a route: its literals have no half of a pair, and it
has a segment or wants a slash at the end. -/
def Reachable (template : StartUrlTemplateV1) : Prop :=
  (∀ value, .literal value ∈ template.path.segments → WellPaired value) ∧
    (template.path.segments = [] → template.path.trailingSlash = .required)

theorem utf8Length_append_small (front : Units) {back : Units}
    (small : ∀ unit ∈ back, unit.toNat < 0x80) :
    utf8Length (front ++ back) = utf8Length front + back.length := by
  rw [utf8Length_append, utf8Length_ascii small]
  intro unit first
  have bound := small unit (List.mem_of_head? first)
  exact decide_eq_false (by omega)

/-- The bytes of a canonical form. -/
theorem canonical_length (origin : Units) (segments : List Units) (trailingSlash : TrailingSlashV1)
    (pairs : List (Units × Units)) :
    utf8Length (origin ++ serializePath segments trailingSlash ++
        searchText (joinPairs formBytes pairs)) =
      utf8Length origin + (serializePath segments trailingSlash).length +
        (searchText (joinPairs formBytes pairs)).length := by
  have path : ∀ unit ∈ serializePath segments trailingSlash, unit.toNat < 0x80 := by
    have parts : ∀ unit ∈ segments.flatMap fun segment => 47 :: encodeURIComponent segment,
        unit.toNat < 0x80 := by
      intro unit member
      obtain ⟨segment, -, inside⟩ := List.mem_flatMap.mp member
      rcases List.mem_cons.mp inside with rfl | among
      · decide
      · obtain ⟨byte, own, rfl⟩ := List.mem_map.mp among
        have bound := (componentBytes_codes own).2.1
        rw [UInt8.toNat_toUInt16]
        omega
    intro unit member
    unfold serializePath at member
    dsimp only at member
    split_ifs at member
    · rw [List.mem_singleton.mp member]
      decide
    · rcases List.mem_append.mp member with inside | last
      · exact parts unit inside
      · rw [List.mem_singleton.mp last]
        decide
    · exact parts unit member
  have search : ∀ unit ∈ searchText (joinPairs formBytes pairs), unit.toNat < 0x80 := by
    intro unit member
    unfold searchText at member
    split_ifs at member
    · exact absurd member List.not_mem_nil
    · rcases List.mem_cons.mp member with rfl | inside
      · decide
      · obtain ⟨byte, own, rfl⟩ := List.mem_map.mp inside
        rw [UInt8.toNat_toUInt16]
        rcases mem_joinedPairs own with rfl | rfl | ⟨text, among⟩
        · decide
        · decide
        · exact (formBytes_plain text byte among).2.1
  rw [utf8Length_append_small _ search, utf8Length_append_small _ path]

/-- A slot admits its shortest segment, and a literal its text. -/
theorem shortest_admitted (parsed : Parsed urls template) (reachable : Reachable template) :
    ∀ expected ∈ template.path.segments,
      Admits expected (shortest expected) ∧ Fine (shortest expected) := by
  intro expected member
  cases expected with
  | literal value => exact ⟨rfl, parsed.literals value member, reachable.1 value member⟩
  | slot id minimum maximum =>
    obtain ⟨least, order⟩ := parsed.slots id minimum maximum member
    have units : ∀ unit ∈ List.replicate minimum (97 : UInt16), unit = 97 :=
      fun unit inside => List.eq_of_mem_replicate inside
    have bytes : utf8Length (List.replicate minimum 97) = minimum := by
      rw [utf8Length_ascii fun unit inside => units unit inside ▸ by decide, List.length_replicate]
    have whole : WellPaired (List.replicate minimum 97) :=
      .of_small fun unit inside => units unit inside ▸ by decide
    have apart : ∀ mark : UInt16, mark ≠ 97 → mark ∉ List.replicate minimum (97 : UInt16) :=
      fun mark other inside => other (units mark inside)
    have safe : isSafePathSegment (List.replicate minimum 97) = true := by
      have first : List.replicate minimum (97 : UInt16) ≠ [46] := fun same =>
        apart 46 (by decide) (same ▸ List.mem_cons_self)
      have second : List.replicate minimum (97 : UInt16) ≠ [46, 46] := fun same =>
        apart 46 (by decide) (same ▸ List.mem_cons_self)
      have control : containsControl (List.replicate minimum 97) = false := by
        rw [containsControl, List.any_eq_false]
        intro unit inside
        rw [units unit inside]
        decide
      simp only [isSafePathSegment, Bool.and_eq_true, Bool.not_eq_true', bne_iff_ne,
        List.isEmpty_eq_false_iff, control]
      simp [first, second]
      omega
    exact ⟨⟨safe, by rw [shortest, bytes], by rw [shortest, bytes]; exact order⟩, safe, whole⟩

end Routes

theorem serializePath_shape (segments : List Units) (trailingSlash : TrailingSlashV1) :
    (serializePath segments trailingSlash).head? = some 47 ∧
      (63 : UInt16) ∉ serializePath segments trailingSlash := by
  have plain : (63 : UInt16) ∉ segments.flatMap fun segment => 47 :: encodeURIComponent segment := by
    intro member
    obtain ⟨segment, -, inside⟩ := List.mem_flatMap.mp member
    obtain ⟨byte, own, same⟩ := List.mem_map.mp ((List.mem_cons.mp inside).resolve_left (by decide))
    have code : byte.toNat = 63 := by rw [← UInt8.toNat_toUInt16, same]; rfl
    exact absurd (componentBytes_codes own).2.2 (by simp [code])
  unfold serializePath
  cases segments with
  | nil => simp
  | cons first rest =>
    cases trailingSlash with
    | required => exact ⟨by simp, by simpa using plain⟩
    | forbidden => exact ⟨by simp, by simpa using plain⟩

/-- The query of a text, with the question mark before one that is not empty. -/
def siteSearch (text : Units) : Units := searchText ((text.dropWhile (· != 63)).drop 1)

/-- The URL of a site that a text is, if it is one. -/
def readSite (text : Units) : Option UrlV1 :=
  let front := text.takeWhile (· != 63)
  if front = ascii "https://h" then
    some ⟨ascii "https:", [], [], ascii "https://h", [47], siteSearch text, []⟩
  else if (ascii "https://h/").isPrefixOf front then
    some ⟨ascii "https:", [], [], ascii "https://h", front.drop 9, siteSearch text, []⟩
  else none

/-- A URL class that knows this site. -/
def siteUrls : UrlClass where
  parse := readSite
  pathnameOf := some
  canonical := fun origin pathname pairs =>
    origin ++ pathname ++ searchText (joinPairs formBytes pairs)
  slashed := by
    intro text url read _
    unfold readSite at read
    dsimp only at read
    split_ifs at read with bare starts
    · rw [← Option.some.inj read]
      rfl
    · obtain ⟨rest, same⟩ := List.isPrefixOf_iff_prefix.mp starts
      rw [← Option.some.inj read, ← same]
      rfl
  written := by
    intro origin base read _ own segments trailingSlash pairs _ _
    refine ⟨rfl, ?_⟩
    have site : origin = ascii "https://h" := by
      unfold readSite at read
      dsimp only at read
      split_ifs at read <;>
        rw [← own, ← Option.some.inj read]
    obtain ⟨head, clear⟩ := serializePath_shape segments trailingSlash
    obtain ⟨rest, path⟩ := List.head?_eq_some_iff.mp head
    have before : ∀ unit ∈ origin ++ serializePath segments trailingSlash, (unit != 63) = true := by
      intro unit member
      rcases List.mem_append.mp member with front | back
      · rw [site] at front
        have all : ∀ unit ∈ ascii "https://h", (unit != 63) = true := forall_of_all (by decide)
        exact all unit front
      · simpa using fun same : unit = 63 => clear (same ▸ back)
    generalize joinPairs formBytes pairs = query
    have stops : (searchText query).takeWhile (· != 63) = [] ∧
        ((searchText query).dropWhile (· != 63)).drop 1 = query := by
      unfold searchText
      split
      · rename_i none
        exact ⟨rfl, none.symm⟩
      · exact ⟨rfl, rfl⟩
    simp only [readSite, siteSearch, List.takeWhile_append_of_pos before,
      List.dropWhile_append_of_pos before, stops.1, stops.2, List.append_nil]
    rw [site, path, if_neg (by simp), if_pos (by
      rw [List.isPrefixOf_iff_prefix]
      exact ⟨rest, rfl⟩)]
    rfl

/-- A route without segments. -/
def bareRoute (trailingSlash : String) : JsValue := .object [
  (ascii "id", .string (ascii "route")), (ascii "origin", .string (ascii "https://h")),
  (ascii "path", .object [(ascii "segments", .array []),
    (ascii "trailing_slash", .string (ascii trailingSlash))]),
  (ascii "query", .array [])]

end StartUrl

end Klura
